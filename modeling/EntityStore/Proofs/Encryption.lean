import EntityStore.Proofs.Channel
import EntityStore.Proofs.Outcome

/-!
# Which channels are encrypted

The channel to an emulator is plain, and the one to the service is to be encrypted. A configuration
goes to the service if the host of the emulator is unset or empty, and encrypts only if it is unset:
so an empty host makes a plain channel to the service. No environment sets such a host.

* `Config.Protects` — a channel is plain exactly if it goes to the emulator;
* `Config.IsProtected` — all channels of all runs are so, and with them every token that is sent;
* `Config.isProtected_iff` — the configurations of which this holds;
* `channels_protected` — the same for given settings, and for clients of an environment;
* `not_isProtected_of_empty_host` — a token that goes to the service over a plain channel.
-/

namespace EntityStore

/-! ### Configurations -/

namespace Config

/-- No emulator is named, so that the address is that of the service. -/
def FallsBack (config : Config) : Prop :=
  ∀ host, config.emulatorHost = some host → host = ""

/-- A channel is plain exactly if it goes to the host of the emulator. Where no emulator is named it
goes to the service, and is encrypted. -/
structure Protects (config : Config) (t : Transport) : Prop where
  plain_iff : t.isSecure = false ↔ config.emulatorHost = some t.address
  encrypted : config.FallsBack → t.address = config.endpoint ∧ t.isSecure = true

/-- Whatever a client of the configuration is asked for, and whatever comes of it, every channel
that it opens is protected, and so is the one that each of its requests goes over with its token. -/
def IsProtected (config : Config) : Prop :=
  ∀ (σ : Type) (c : Client) (v : Service σ) (s : Schema) (ops : List Operation) (world : σ),
    c.config = config →
      (∀ address isSecure size, .opened address isSecure size ∈
          (Activity.run c v s ops (.start world)).session.events →
        config.Protects ⟨address, isSecure, size⟩) ∧
      ∀ front m request metadata back,
        (Activity.run c v s ops (.start world)).session.events =
          front ++ .sent m request metadata :: back →
        ∃ t, Event.channel front = some t ∧ config.Protects t

variable {config : Config}

theorem fallsBack_iff : config.FallsBack ↔ config.emulatorHost.filter (· != "") = none := by
  rw [Option.filter_eq_none_iff]
  simp only [bne_iff_ne, ne_eq, Decidable.not_not]
  exact Iff.rfl

theorem address_of_fallsBack (h : config.FallsBack) : config.address = config.endpoint := by
  unfold address
  split
  · rfl
  · rfl
  next host hne hhost => exact absurd (h host hhost) hne

theorem address_of_host {host : String} (h : config.emulatorHost = some host) (hne : host ≠ "") :
    config.address = host := by
  unfold address
  rw [h]
  split
  next heq => cases heq
  next heq => exact absurd (Option.some.inj heq) hne
  next heq => exact (Option.some.inj heq).symm

theorem isSecure_of_none (h : config.emulatorHost = none) : config.isSecure = true := by
  rw [isSecure, h]
  rfl

theorem isSecure_of_host {host : String} (h : config.emulatorHost = some host) :
    config.isSecure = false := by
  rw [isSecure, h]
  rfl

/-- The channel of a configuration is protected unless the host of the emulator is set and empty. -/
theorem protects_transport_iff {c : Client} :
    c.config.Protects c.transport ↔ c.config.emulatorHost ≠ some "" := by
  constructor
  · intro h hempty
    have hfalls : c.config.FallsBack := by
      intro host hhost
      exact Option.some.inj (hhost.symm.trans hempty)
    have hplain : c.transport.isSecure = false := isSecure_of_host hempty
    rw [(h.encrypted hfalls).2] at hplain
    cases hplain
  · intro hne
    cases hhost : c.config.emulatorHost with
    | none =>
      have hsecure : c.transport.isSecure = true := isSecure_of_none hhost
      refine ⟨?_, fun hfalls => ⟨address_of_fallsBack hfalls, hsecure⟩⟩
      rw [hsecure, hhost]
      exact ⟨nofun, nofun⟩
    | some host =>
      have hnonempty : host ≠ "" := by
        rintro rfl
        exact hne hhost
      have hplain : c.transport.isSecure = false := isSecure_of_host hhost
      have haddress : c.transport.address = host := address_of_host hhost hnonempty
      refine ⟨?_, fun hfalls => absurd (hfalls host hhost) hnonempty⟩
      rw [haddress]
      exact ⟨fun _ => hhost, fun _ => hplain⟩

/-- **The configurations whose runs are protected** are those whose channel is. -/
theorem isProtected_iff : config.IsProtected ↔ config.emulatorHost ≠ some "" := by
  constructor
  · intro h
    let c : Client := ⟨"", config, .empty⟩
    have hopened : .opened config.address config.isSecure config.maxMessageSize ∈
        (Activity.run c .playing [] [.connect] (.start ⟨0, []⟩)).session.events :=
      List.mem_singleton.mpr rfl
    have hprotects := (h Script c .playing [] [.connect] ⟨0, []⟩ rfl).1 _ _ _ hopened
    exact (protects_transport_iff (c := c)).mp hprotects
  · rintro hne σ c v s ops world rfl
    have hprotects : c.config.Protects c.transport := protects_transport_iff.mpr hne
    have htraces := Activity.traces_run (c := c) (v := v) (s := s) ops (.start world)
      (.start c.transport world)
    constructor
    · intro address isSecure size hmem
      rw [htraces.opened address isSecure size hmem]
      exact hprotects
    · intro front m request metadata back hsplit
      exact ⟨c.transport, htraces.sent front m request metadata back hsplit, hprotects⟩

/-! ### Settings and environments -/

theorem emulatorHost_of_make {s : Settings} (h : make s = .ok config) :
    config.emulatorHost = s.emulatorHost := by
  unfold make at h
  split at h
  · split at h
    · obtain rfl := Except.ok.inj h
      rfl
    · cases h
  · cases h

/-- No environment sets an empty host: a variable without a text counts as unset. -/
theorem emulatorHost_of_environment {env : Environment} {ws : List Warning}
    (h : ofEnvironment env = .ok (config, ws)) : config.emulatorHost ≠ some "" := by
  obtain ⟨rounds, -, h⟩ := bind_eq_ok h
  obtain ⟨size, -, h⟩ := bind_eq_ok h
  obtain ⟨made, hmade, h⟩ := bind_eq_ok h
  obtain rfl : made = config := congrArg Prod.fst (Except.ok.inj h)
  rw [emulatorHost_of_make hmade]
  intro hempty
  have hfilter := Option.filter_eq_some_iff.mp hempty
  simp at hfilter

end Config

namespace Client

/-- The supplier for a configuration hands out a fixed token exactly if an emulator is named. -/
theorem fixed_supplier_iff {config : Config} {keyFile : String → Option Credentials}
    {surroundings : Except String Credentials} {supplier : Supplier}
    (h : supplierOf config keyFile surroundings = .ok supplier) :
    (∃ token, supplier = .fixed token) ↔ ¬ config.FallsBack := by
  rw [Config.fallsBack_iff]
  unfold supplierOf at h
  split at h
  next host path hhost =>
    obtain rfl := Except.ok.inj h
    rw [hhost]
    exact ⟨fun _ => nofun, fun _ => ⟨"owner", rfl⟩⟩
  next path hnone hpath =>
    rw [hnone]
    refine ⟨?_, fun hnot => absurd rfl hnot⟩
    rintro ⟨token, rfl⟩
    unfold Supplier.ofKeyFile at h
    split at h <;> cases h
  next hnone hpath =>
    rw [hnone]
    refine ⟨?_, fun hnot => absurd rfl hnot⟩
    rintro ⟨token, rfl⟩
    unfold Supplier.ofSurroundings at h
    split at h <;> cases h

theorem config_of_make {projectId : String} {policy : Option Policy} {config : Config}
    {env : Environment} {files : Files} {c : Client} {ws : List Warning}
    (h : make projectId policy (some config) env files = .ok (c, ws)) : c.config = config := by
  unfold make at h
  split at h
  next => cases h; rfl
  next config' hconfig =>
    obtain rfl := Option.some.inj hconfig
    split at h
    · obtain ⟨loaded, -, hc⟩ := map_eq_ok h
      cases hc
      rfl
    · cases h
      rfl
  next hconfig => cases hconfig

/-- The parts of a client that comes of an environment. -/
theorem ofEnvironment_eq_ok {env : Environment} {files : Files}
    {keyFile : String → Option Credentials} {surroundings : Except String Credentials} {c : Client}
    {supplier : Supplier} {ws : List Warning}
    (h : ofEnvironment env files keyFile surroundings = .ok (c, supplier, ws)) :
    (∃ ws, Config.ofEnvironment env = .ok (c.config, ws)) ∧
      supplierOf c.config keyFile surroundings = .ok supplier := by
  obtain ⟨⟨config, ws₁⟩, hconfig, h⟩ := bind_eq_ok h
  obtain ⟨supplier', hsupplier, h⟩ := bind_eq_ok h
  obtain ⟨⟨c', ws₂⟩, hmake, h⟩ := bind_eq_ok h
  cases h
  obtain rfl := config_of_make hmake
  exact ⟨⟨ws₁, hconfig⟩, hsupplier⟩

end Client

/-! ### Every run -/

/-- **Plain channels go to the emulator.** A configuration that is accepted has protected runs
exactly if the host of the emulator is not set to the empty text. An environment sets no such host,
so all configurations of environments are protected. Moreover the tokens of credentials go over
encrypted channels alone: a client of an environment has a plain channel exactly if its supplier
hands out a fixed token. -/
theorem channels_protected (config : Config) :
    (∀ settings, Config.make settings = .ok config →
      (config.IsProtected ↔ settings.emulatorHost ≠ some "")) ∧
    (∀ env ws, Config.ofEnvironment env = .ok (config, ws) → config.IsProtected) ∧
    ∀ env files keyFile surroundings c supplier ws,
      Client.ofEnvironment env files keyFile surroundings = .ok (c, supplier, ws) →
        c.config = config → config.IsProtected ∧
          (c.transport.isSecure = false ↔ ∃ token, supplier = .fixed token) := by
  refine ⟨?_, ?_, ?_⟩
  · intro settings hmake
    rw [Config.isProtected_iff, Config.emulatorHost_of_make hmake]
  · intro env ws henv
    exact Config.isProtected_iff.mpr (Config.emulatorHost_of_environment henv)
  · rintro env files keyFile surroundings c supplier ws hclient rfl
    obtain ⟨⟨ws', henv⟩, hsupplier⟩ := Client.ofEnvironment_eq_ok hclient
    have hhost := Config.emulatorHost_of_environment henv
    have hprotects : c.config.Protects c.transport := Config.protects_transport_iff.mpr hhost
    refine ⟨Config.isProtected_iff.mpr hhost, ?_⟩
    rw [Client.fixed_supplier_iff hsupplier]
    constructor
    · intro hplain hfalls
      rw [(hprotects.encrypted hfalls).2] at hplain
      cases hplain
    · intro hnamed
      cases hset : c.config.emulatorHost with
      | none => exact absurd (fun host h => nomatch hset.symm.trans h) hnamed
      | some host => exact Config.isSecure_of_host hset

/-- The configuration of a project with a host of the emulator and, if there is one, a key file. -/
def emulated (host : String) (keyFile : Option String) : Config :=
  { Config.ofProject "p" with emulatorHost := some host, credentialsPath := keyFile }

/-- An environment that describes such a configuration. -/
def emulatorVariables : Environment :=
  [("DATASTORE_PROJECT_ID", "p"), ("DATASTORE_EMULATOR_HOST", "localhost:8081"),
    ("GOOGLE_APPLICATION_CREDENTIALS", "key.json")]

/-- With an emulator, every run is protected. Although the environment names a key file, the token
that goes to the emulator is the fixed one. -/
theorem channels_protected_emulator :
    (Config.make { projectId := "p", emulatorHost := some "localhost:8081" } =
        .ok (emulated "localhost:8081" none) ∧
      (emulated "localhost:8081" none).IsProtected) ∧
    (Config.ofEnvironment emulatorVariables =
        .ok (emulated "localhost:8081" (some "key.json"), []) ∧
      (emulated "localhost:8081" (some "key.json")).IsProtected) ∧
    Client.ofEnvironment emulatorVariables (fun _ => .unreadable)
        (fun _ => some ⟨none, false, 0, fun _ => .refused "revoked"⟩) (.error "none found") =
          .ok (⟨"p", emulated "localhost:8081" (some "key.json"), .empty⟩, .default, []) ∧
      ∃ token, Supplier.default = .fixed token := by
  obtain ⟨hsettings, -⟩ := channels_protected (emulated "localhost:8081" none)
  obtain ⟨-, henvironment, hclient⟩ :=
    channels_protected (emulated "localhost:8081" (some "key.json"))
  refine ⟨⟨rfl, ?_⟩, ⟨rfl, ?_⟩, rfl, ?_⟩
  · exact (hsettings { projectId := "p", emulatorHost := some "localhost:8081" } rfl).mpr
      (by decide)
  · exact henvironment emulatorVariables _ rfl
  · exact (hclient emulatorVariables (fun _ => .unreadable)
      (fun _ => some ⟨none, false, 0, fun _ => .refused "revoked"⟩) (.error "none found")
      ⟨"p", emulated "localhost:8081" (some "key.json"), .empty⟩ .default [] rfl rfl).2.mp rfl

/-- Not every configuration is protected. With an empty host the channel is plain, although it is
opened to the service, and a token goes over it. -/
theorem not_isProtected_of_empty_host :
    Config.make { projectId := "p", emulatorHost := some "" } = .ok (emulated "" none) ∧
      ¬ (emulated "" none).IsProtected ∧
      (Activity.run ⟨"p", emulated "" none, .empty⟩ .playing [] [.connect, .begin .default none]
          (.start ⟨0, []⟩)).session.events =
        [.opened "datastore.googleapis.com:443" false 52428800, .asked (.ok "token-1"),
          .sent .beginTransaction ⟨"p", none⟩ [("authorization", "Bearer token-1")]] := by
  refine ⟨rfl, ?_, rfl⟩
  intro h
  exact Config.isProtected_iff.mp h rfl

end EntityStore
