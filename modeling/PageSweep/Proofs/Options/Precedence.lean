import Mathlib.Data.List.Nodup
import PageSweep.Bench
import PageSweep.Options.Reader
import PageSweep.Proofs.Text.Pieces

/-!
# Where Settings Come From

A setting has one text in the end: that of its flag, else that of its variable, else
its default. Each setting is read from its own text by its own rules, and a
configuration comes of it exactly if no setting refuses its text and the base URL is a
web URL. Everything else on the command line and in the environment is of no account:
the order of the flags, how they are spelled, the other settings, and a variable behind
a flag.

The reader works differently. It looks at the value of a flag only when the next flag
is reached, because until then the value may still be to come. That it takes the given
settings one after another all the same is shown by induction on the command line, for
every state of the reader, with the waiting flag settled first.

## Main definitions

* `Given`: A setting on the command line, in one of two spellings.
* `commandLine`: The arguments that give settings.
* `textOf`: The text of a setting.
* `Reads`: A setting has a value.
* `Agrees`: A configuration holds what the settings say.
* `SameAt`: Two configurations hold the same for a setting.

## Theorems

* `readArguments_commandLine`: The reader takes the given settings in turn.
* `foldlM_take_eq_ok_iff`: Settings that differ are taken exactly if each is accepted.
* `readConfig_eq_ok_iff`: The configuration of a command line and an environment.
* `readConfig_precedence`: When there is one, and that nothing else matters.
-/

namespace PageSweep

namespace Options

/-- A setting on the command line: `--flag=value`, or `--flag value` unless the value
begins with a dash. -/
structure Given where
  setting : Setting
  value : String
  attached : Bool
  spelled : attached = true ∨ value.toList.head? ≠ some '-'

/-- The arguments that give a setting. -/
def Given.arguments (g : Given) : List String :=
  if g.attached then ["--" ++ g.setting.flag ++ "=" ++ g.value]
  else ["--" ++ g.setting.flag, g.value]

/-- The arguments that give settings, in order. -/
def commandLine (given : List Given) : List String :=
  given.flatMap Given.arguments

/-- The text of a setting: that of its flag, else that of its variable, else its
default. -/
def textOf (given : List Given) (env : String → Option String) (s : Setting) : Option String :=
  match given.find? fun g => g.setting = s with
  | some g => some g.value
  | none =>
    match env s.envName with
    | some value => some value
    | none => s.default?

/-- A setting accepts a text. -/
def Accepts (s : Setting) (text : String) : Prop := ∃ value, s.read text = .ok value

/-- A setting reads a value from its text. -/
def Reads (texts : Setting → Option String) (s : Setting) (value : s.Value) : Prop :=
  ∃ text, texts s = some text ∧ s.read text = .ok value

/-- A configuration holds what the settings say, and nothing is said about a setting
without a text. -/
structure Agrees (idna : Url.Idna) (texts : Setting → Option String) (config : Config) :
    Prop where
  baseUrl : ∃ text, texts .baseUrl = some text ∧ Url.read idna text = .ok config.baseUrl ∧
    config.baseUrl.isWeb = true
  limit : Reads texts .limit config.limit
  vus : Reads texts .vus config.vus
  duration : Reads texts .duration config.duration
  maxPages : Reads texts .maxPages config.maxPages
  requestTimeout : Reads texts .requestTimeout config.requestTimeout
  metricsAddr : match config.metricsAddr with
    | some address => Reads texts .metricsAddr address
    | none => texts .metricsAddr = none

/-- Two configurations hold the same for a setting. -/
def SameAt (config other : Config) : Setting → Prop
  | .baseUrl => config.baseUrl = other.baseUrl
  | .limit => config.limit = other.limit
  | .vus => config.vus = other.vus
  | .duration => config.duration = other.duration
  | .maxPages => config.maxPages = other.maxPages
  | .requestTimeout => config.requestTimeout = other.requestTimeout
  | .metricsAddr => config.metricsAddr = other.metricsAddr

/-- A computation goes on after a first part exactly if that part ends well. -/
theorem bind_eq_ok_iff {ε α β : Type} (x : Except ε α) (f : α → Except ε β) (b : β) :
    (x >>= f) = .ok b ↔ ∃ a, x = .ok a ∧ f a = .ok b := by
  cases x with
  | error e =>
      constructor
      · intro h
        exact absurd h (by simp only [bind, Except.bind, reduceCtorEq, not_false_eq_true])
      · rintro ⟨a, ha, -⟩
        exact absurd ha (by simp only [reduceCtorEq, not_false_eq_true])
  | ok a =>
      constructor
      · intro h
        exact ⟨a, rfl, h⟩
      · rintro ⟨other, hother, h⟩
        rw [Except.ok.inj hother]
        exact h

section Flags

variable (s : Setting)

theorem ofFlag?_flag : Setting.ofFlag? s.flag = some s := by
  cases s <;> decide

theorem flag_ne_mark (c : Char) (hc : c ∈ s.flag.toList) : c ≠ '=' := by
  have hall : ∀ s : Setting, '=' ∉ s.flag.toList := by
    intro s
    cases s <;> decide
  intro h
  exact hall s (h ▸ hc)

theorem cut?_flag : Text.cut? '=' s.flag.toList = none := by
  cases s <;> decide

theorem flag_ne_nil : s.flag.toList ≠ [] := by
  cases s <;> decide

theorem toList_spaced : ("--" ++ s.flag).toList = '-' :: '-' :: s.flag.toList := by
  rw [String.toList_append]
  rfl

theorem toList_attached (value : String) :
    ("--" ++ s.flag ++ "=" ++ value).toList
      = '-' :: '-' :: (s.flag.toList ++ '=' :: value.toList) := by
  rw [String.toList_append, String.toList_append, toList_spaced, List.append_assoc]
  rfl

variable (p : Progress)

/-- A flag settles what is waiting, and then waits for its own value. -/
theorem argument_spaced :
    p.argument ("--" ++ s.flag)
      = p.settle >>= fun q => .ok { q with waiting := some (s, none) } := by
  rw [Progress.argument, toList_spaced]
  simp only [cut?_flag, Progress.long, String.ofList_toList, ofFlag?_flag]
  rfl

/-- A flag with its value settles what is waiting, and then its value is looked at. -/
theorem argument_attached (value : String) :
    p.argument ("--" ++ s.flag ++ "=" ++ value)
      = p.settle >>= fun q => q.accept s value := by
  rw [Progress.argument, toList_attached]
  simp only [Text.cut?_append_cons '=' _ _ (flag_ne_mark s), Progress.long, String.ofList_toList,
    ofFlag?_flag]

/-- A value without a dash goes to the flag that waits for it. -/
theorem argument_value (value : String) (hvalue : value.toList.head? ≠ some '-') :
    Progress.argument { p with waiting := some (s, none) } value
      = .ok { p with waiting := some (s, some value) } := by
  unfold Progress.argument
  split
  · next h => exact absurd (by rw [h]; rfl) hvalue
  · next h => exact absurd (by rw [h]; rfl) hvalue
  · rfl

/-- Neither a flag nor a value is the lone `--` after which nothing may follow. -/
theorem spaced_ne_dashes : "--" ++ s.flag ≠ "--" := by
  intro h
  have htext := congrArg String.toList h
  rw [toList_spaced] at htext
  exact flag_ne_nil s (List.tail_eq_of_cons_eq (List.tail_eq_of_cons_eq htext))

theorem attached_ne_dashes (value : String) : "--" ++ s.flag ++ "=" ++ value ≠ "--" := by
  intro h
  have htext := congrArg String.toList h
  rw [toList_attached] at htext
  exact List.append_ne_nil_of_right_ne_nil _ (List.cons_ne_nil _ _)
    (List.tail_eq_of_cons_eq (List.tail_eq_of_cons_eq htext))

theorem value_ne_dashes (value : String) (hvalue : value.toList.head? ≠ some '-') :
    value ≠ "--" := by
  intro h
  rw [h] at hvalue
  exact hvalue rfl

end Flags

section Accept

variable (p : Progress) (s : Setting) (value : String)

/-- A value is taken exactly if its setting was not given before and accepts it. -/
theorem accept_eq_ok_iff (q : Progress) :
    p.accept s value = .ok q ↔
      s ∉ p.used ∧ Accepts s value ∧ q = ⟨p.given ++ [(s, value)], none⟩ := by
  unfold Progress.accept Accepts
  by_cases hused : s ∈ p.used
  · rw [if_pos hused]
    constructor
    · intro h
      exact absurd h (by simp only [reduceCtorEq, not_false_eq_true])
    · intro h
      exact absurd hused h.1
  · rw [if_neg hused]
    cases hread : s.read value with
    | error cause =>
        constructor
        · intro h
          exact absurd h (by simp only [reduceCtorEq, not_false_eq_true])
        · rintro ⟨-, ⟨other, hother⟩, -⟩
          exact absurd hother (by simp only [reduceCtorEq, not_false_eq_true])
    | ok v =>
        constructor
        · intro h
          exact ⟨hused, ⟨v, rfl⟩, (Except.ok.inj h).symm⟩
        · rintro ⟨-, -, rfl⟩
          rfl

/-- After a value has been taken nothing is waiting. -/
theorem settle_of_accept (q : Progress) (h : p.accept s value = .ok q) : q.settle = .ok q := by
  rcases (accept_eq_ok_iff p s value q).mp h with ⟨-, -, rfl⟩
  rfl

end Accept

/-- Takes a given setting. -/
def take (p : Progress) (g : Given) : Except Stop Progress := p.accept g.setting g.value

/-- The reader goes on after an argument with what comes of it. -/
theorem readArguments_cons (p : Progress) (text : String) (rest : List String)
    (htext : text ≠ "--") :
    readArguments p (text :: rest) = p.argument text >>= fun q => readArguments q rest := by
  rw [readArguments.eq_def]
  exact if_neg htext

/-- The reader takes the given settings in turn, after what was waiting before them. -/
theorem readArguments_commandLine (given : List Given) (p : Progress) :
    readArguments p (commandLine given) = p.settle >>= fun q => given.foldlM take q := by
  induction given generalizing p with
  | nil =>
      have hend : readArguments p (commandLine []) = p.settle := by
        rw [commandLine, List.flatMap_nil, readArguments]
      exact hend.trans (bind_pure p.settle).symm
  | cons g rest ih =>
      rw [commandLine, List.flatMap_cons, ← commandLine, Given.arguments]
      -- In one spelling the setting is taken at once. In the other one it waits for what
      -- comes next, and is taken then.
      by_cases hattached : g.attached = true
      · rw [if_pos hattached, List.singleton_append,
          readArguments_cons _ _ _ (attached_ne_dashes g.setting g.value), argument_attached,
          bind_assoc]
        refine bind_congr fun q => ?_
        rw [List.foldlM_cons, take]
        cases haccept : q.accept g.setting g.value with
        | error cause => rfl
        | ok r =>
            have hrest := ih r
            rw [settle_of_accept q g.setting g.value r haccept] at hrest
            exact hrest
      · have hvalue := g.spelled.resolve_left hattached
        rw [if_neg hattached, List.cons_append, List.singleton_append,
          readArguments_cons _ _ _ (spaced_ne_dashes g.setting), argument_spaced, bind_assoc]
        refine bind_congr fun q => ?_
        have hwaits : readArguments { q with waiting := some (g.setting, none) }
              (g.value :: commandLine rest)
            = readArguments { q with waiting := some (g.setting, some g.value) }
              (commandLine rest) := by
          rw [readArguments_cons _ _ _ (value_ne_dashes _ hvalue), argument_value _ _ _ hvalue]
          rfl
        rw [List.foldlM_cons]
        exact hwaits.trans (ih _)

/-- Settings that differ are taken exactly if each of them accepts its text. -/
theorem foldlM_take_eq_ok_iff (given : List Given) (taken : List (Setting × String))
    (hnodup : (taken.map Prod.fst ++ given.map Given.setting).Nodup) (q : Progress) :
    given.foldlM take ⟨taken, none⟩ = .ok q ↔
      (∀ g ∈ given, Accepts g.setting g.value) ∧
      q = ⟨taken ++ given.map fun g => (g.setting, g.value), none⟩ := by
  induction given generalizing taken with
  | nil =>
      rw [List.foldlM_nil, List.map_nil, List.append_nil]
      constructor
      · intro h
        exact ⟨fun g hg => absurd hg List.not_mem_nil, (Except.ok.inj h).symm⟩
      · rintro ⟨-, rfl⟩
        rfl
  | cons g rest ih =>
      rw [List.foldlM_cons, bind_eq_ok_iff]
      simp only [List.map_cons] at hnodup
      -- The first setting differs from those before it, and it is one of those before
      -- the others.
      have hfirst : g.setting ∉ (⟨taken, none⟩ : Progress).used := fun h =>
        (List.nodup_append.mp hnodup).2.2 _ h _ List.mem_cons_self rfl
      have hrest := ih (taken ++ [(g.setting, g.value)])
        (by rw [List.map_append, List.append_assoc]; exact hnodup)
      rw [List.append_assoc] at hrest
      constructor
      · rintro ⟨r, htake, hfold⟩
        rcases (accept_eq_ok_iff _ _ _ r).mp htake with ⟨-, haccepts, rfl⟩
        rcases hrest.mp hfold with ⟨hall, hq⟩
        exact ⟨List.forall_mem_cons.mpr ⟨haccepts, hall⟩, hq⟩
      · rintro ⟨hall, hq⟩
        rcases List.forall_mem_cons.mp hall with ⟨haccepts, hothers⟩
        exact ⟨_, (accept_eq_ok_iff _ _ _ _).mpr ⟨hfirst, haccepts, rfl⟩,
          hrest.mpr ⟨hothers, hq⟩⟩

section Texts

variable (idna : Url.Idna) (texts : Setting → Option String) (s : Setting)

theorem readValue_eq_ok_iff (text : String) (value : s.Value) :
    readValue s text = .ok value ↔ s.read text = .ok value := by
  unfold readValue
  cases h : s.read text with
  | error cause => simp only [reduceCtorEq]
  | ok other => simp only [Except.ok.injEq]

theorem require_eq_ok_iff (value : s.Value) :
    require texts s = .ok value ↔ Reads texts s value := by
  unfold require Reads
  cases texts s with
  | none => simp only [reduceCtorEq, false_and, exists_false]
  | some text => simp only [readValue_eq_ok_iff, Option.some.injEq, exists_eq_left']

theorem readBaseUrl_eq_ok_iff (text : String) (url : Url) :
    Config.readBaseUrl idna text = .ok url ↔ Url.read idna text = .ok url ∧ url.isWeb = true := by
  unfold Config.readBaseUrl
  cases Url.read idna text with
  | error cause => simp only [reduceCtorEq, false_and]
  | ok other =>
      by_cases hweb : other.isWeb = true
      · simp only [if_pos hweb, Except.ok.injEq]
        constructor
        · rintro rfl
          exact ⟨rfl, hweb⟩
        · exact And.left
      · simp only [if_neg hweb, Except.ok.injEq, reduceCtorEq, false_iff, not_and]
        rintro rfl
        exact hweb

theorem map_some_eq_ok_iff {ε α : Type} (x : Except ε α) (value? : Option α) :
    x.map some = .ok value? ↔ ∃ a, x = .ok a ∧ some a = value? := by
  cases x <;> simp [Except.map]

/-- The address for metrics is the one setting that may be left without a text. -/
theorem optional_eq_ok_iff (address? : Option SocketAddr) :
    (match texts .metricsAddr with
      | some text => (readValue .metricsAddr text).map some
      | none => pure none : Except Stop (Option SocketAddr)) = .ok address? ↔
      match address? with
      | some address => Reads texts .metricsAddr address
      | none => texts .metricsAddr = none := by
  unfold Reads
  cases texts .metricsAddr with
  | none => cases address? <;> simp [pure, Except.pure]
  | some text =>
      refine (map_some_eq_ok_iff (readValue .metricsAddr text) address?).trans ?_
      cases address? with
      | none => simp only [reduceCtorEq, and_false, exists_false]
      | some address =>
          constructor
          · rintro ⟨other, hread, hsome⟩
            rw [Option.some.inj hsome] at hread
            exact ⟨text, rfl, (readValue_eq_ok_iff .metricsAddr text address).mp hread⟩
          · rintro ⟨other, htext, hread⟩
            rw [← Option.some.inj htext] at hread
            exact ⟨address, (readValue_eq_ok_iff .metricsAddr text address).mpr hread, rfl⟩

theorem ofTexts_eq_ok_iff (settings : Settings) :
    Settings.ofTexts texts = .ok settings ↔
      Reads texts .baseUrl settings.baseUrl ∧ Reads texts .limit settings.limit ∧
      Reads texts .vus settings.vus ∧ Reads texts .duration settings.duration ∧
      Reads texts .maxPages settings.maxPages ∧
      Reads texts .requestTimeout settings.requestTimeout ∧
      match settings.metricsAddr with
      | some address => Reads texts .metricsAddr address
      | none => texts .metricsAddr = none := by
  have hlast : Settings.ofTexts texts = (do
      let baseUrl ← require texts .baseUrl
      let limit ← require texts .limit
      let vus ← require texts .vus
      let duration ← require texts .duration
      let maxPages ← require texts .maxPages
      let requestTimeout ← require texts .requestTimeout
      let metricsAddr ← (match texts .metricsAddr with
        | some text => (readValue .metricsAddr text).map some
        | none => pure none : Except Stop (Option SocketAddr))
      return { baseUrl, limit, vus, duration, maxPages, requestTimeout, metricsAddr }) := by
    unfold Settings.ofTexts
    cases texts .metricsAddr <;> rfl
  rw [hlast]
  simp only [bind_eq_ok_iff, require_eq_ok_iff, optional_eq_ok_iff]
  constructor
  · rintro ⟨baseUrl, hbaseUrl, limit, hlimit, vus, hvus, duration, hduration, maxPages, hmaxPages,
      requestTimeout, hrequestTimeout, metricsAddr, hmetricsAddr, hsettings⟩
    rw [← Except.ok.inj hsettings]
    exact ⟨hbaseUrl, hlimit, hvus, hduration, hmaxPages, hrequestTimeout, hmetricsAddr⟩
  · rintro ⟨hbaseUrl, hlimit, hvus, hduration, hmaxPages, hrequestTimeout, hmetricsAddr⟩
    exact ⟨_, hbaseUrl, _, hlimit, _, hvus, _, hduration, _, hmaxPages, _, hrequestTimeout, _,
      hmetricsAddr, rfl⟩

theorem config_eq_ok_iff (settings : Settings) (config : Config) :
    settings.config idna = .ok config ↔
      (Url.read idna settings.baseUrl = .ok config.baseUrl ∧ config.baseUrl.isWeb = true) ∧
      config.limit = settings.limit ∧ config.vus = settings.vus ∧
      config.duration = settings.duration ∧ config.maxPages = settings.maxPages ∧
      config.requestTimeout = settings.requestTimeout ∧
      config.metricsAddr = settings.metricsAddr := by
  simp only [Settings.config, Config.ofBaseUrl, bind_eq_ok_iff, readBaseUrl_eq_ok_iff]
  constructor
  · rintro ⟨base, ⟨url, hurl, hbase⟩, hconfig⟩
    rw [← Except.ok.inj hconfig, ← Except.ok.inj hbase]
    exact ⟨hurl, rfl, rfl, rfl, rfl, rfl, rfl⟩
  · rcases config with ⟨url, limit, vus, duration, maxPages, requestTimeout, metricsAddr⟩
    rintro ⟨hurl, rfl, rfl, rfl, rfl, rfl, rfl⟩
    exact ⟨_, ⟨url, hurl, rfl⟩, rfl⟩

/-- What the settings say can be looked at in two steps, or at once. -/
theorem agrees_iff (config : Config) :
    (∃ settings, Settings.ofTexts texts = .ok settings ∧ settings.config idna = .ok config) ↔
      Agrees idna texts config := by
  simp only [ofTexts_eq_ok_iff, config_eq_ok_iff]
  constructor
  · rintro ⟨settings, ⟨⟨text, htext, hread⟩, hlimit, hvus, hduration, hmaxPages, hrequestTimeout,
      hmetricsAddr⟩, ⟨hurl, hweb⟩, h1, h2, h3, h4, h5, h6⟩
    have hbase : text = settings.baseUrl := Except.ok.inj hread
    rw [hbase] at htext
    refine ⟨⟨_, htext, hurl, hweb⟩, ?_, ?_, ?_, ?_, ?_, ?_⟩
    · rw [h1]
      exact hlimit
    · rw [h2]
      exact hvus
    · rw [h3]
      exact hduration
    · rw [h4]
      exact hmaxPages
    · rw [h5]
      exact hrequestTimeout
    · rw [h6]
      exact hmetricsAddr
  · rintro ⟨⟨text, htext, hurl, hweb⟩, hlimit, hvus, hduration, hmaxPages, hrequestTimeout,
      hmetricsAddr⟩
    exact ⟨⟨text, config.limit, config.vus, config.duration, config.maxPages,
      config.requestTimeout, config.metricsAddr⟩, ⟨⟨text, htext, rfl⟩, hlimit, hvus, hduration,
      hmaxPages, hrequestTimeout, hmetricsAddr⟩, ⟨hurl, hweb⟩, rfl, rfl, rfl, rfl, rfl, rfl⟩

/-- Whatever a configuration agrees with is accepted. -/
theorem accepts_of_agrees (config : Config) (h : Agrees idna texts config) (text : String)
    (htext : texts s = some text) : Accepts s text := by
  have hreads : ∀ (s : Setting) (value : s.Value) (text : String), Reads texts s value →
      texts s = some text → Accepts s text := by
    rintro s value text ⟨other, hother, hread⟩ htext
    rw [hother, Option.some.injEq] at htext
    exact ⟨value, htext ▸ hread⟩
  cases s with
  | baseUrl => exact ⟨text, rfl⟩
  | limit => exact hreads .limit _ text h.limit htext
  | vus => exact hreads .vus _ text h.vus htext
  | duration => exact hreads .duration _ text h.duration htext
  | maxPages => exact hreads .maxPages _ text h.maxPages htext
  | requestTimeout => exact hreads .requestTimeout _ text h.requestTimeout htext
  | metricsAddr =>
      have hmetrics := h.metricsAddr
      cases haddress : config.metricsAddr with
      | none =>
          simp only [haddress, htext, reduceCtorEq] at hmetrics
      | some address =>
          simp only [haddress] at hmetrics
          exact hreads .metricsAddr address text hmetrics htext

/-- What a configuration holds for a setting depends on the text of this setting only. -/
theorem sameAt_of_agrees (others : Setting → Option String) (config other : Config)
    (h : Agrees idna texts config) (hother : Agrees idna others other) (hs : others s = texts s) :
    SameAt config other s := by
  have hvalue : ∀ (s : Setting) (value value' : s.Value), Reads texts s value →
      Reads others s value' → others s = texts s → value = value' := by
    rintro s value value' ⟨text, htext, hread⟩ ⟨text', htext', hread'⟩ hs
    rw [htext', htext, Option.some.injEq] at hs
    rw [hs, hread] at hread'
    exact Except.ok.inj hread'
  cases s with
  | baseUrl =>
      rcases h.baseUrl with ⟨text, htext, hurl, -⟩
      rcases hother.baseUrl with ⟨text', htext', hurl', -⟩
      rw [htext', htext, Option.some.injEq] at hs
      rw [hs, hurl] at hurl'
      exact Except.ok.inj hurl'
  | limit => exact hvalue .limit _ _ h.limit hother.limit hs
  | vus => exact hvalue .vus _ _ h.vus hother.vus hs
  | duration => exact hvalue .duration _ _ h.duration hother.duration hs
  | maxPages => exact hvalue .maxPages _ _ h.maxPages hother.maxPages hs
  | requestTimeout => exact hvalue .requestTimeout _ _ h.requestTimeout hother.requestTimeout hs
  | metricsAddr =>
      have hfirst := h.metricsAddr
      have hsecond := hother.metricsAddr
      unfold SameAt
      -- Either both have no text, or both read the same one.
      cases haddress : config.metricsAddr with
      | none =>
          cases haddress' : other.metricsAddr with
          | none => rfl
          | some address' =>
              simp only [haddress] at hfirst
              simp only [haddress', Reads, hs, hfirst, reduceCtorEq, false_and,
                exists_false] at hsecond
      | some address =>
          simp only [haddress] at hfirst
          cases haddress' : other.metricsAddr with
          | none =>
              rcases hfirst with ⟨text, htext, -⟩
              simp only [haddress', hs, htext, reduceCtorEq] at hsecond
          | some address' =>
              simp only [haddress'] at hsecond
              exact congrArg some (hvalue .metricsAddr _ _ hfirst hsecond hs)

end Texts

/-- What is given in another order gives the same settings. -/
theorem settings_perm {given others : List Given}
    (hperm : (others.map fun g => (g.setting, g.value)).Perm
      (given.map fun g => (g.setting, g.value))) :
    (others.map Given.setting).Perm (given.map Given.setting) := by
  have hsettings := hperm.map Prod.fst
  rw [List.map_map, List.map_map] at hsettings
  exact hsettings

section Sources

variable (idna : Url.Idna) (given : List Given) (env : String → Option String) (s : Setting)

/-- The reader finds the same text. -/
theorem effective?_eq_textOf :
    effective? (given.map fun g => (g.setting, g.value)) env s = textOf given env s := by
  have hlookup : (given.map fun g => (g.setting, g.value)).lookup s
      = (given.find? fun g => g.setting = s).map Given.value := by
    induction given with
    | nil => rfl
    | cons g rest ih =>
        rw [List.map_cons, List.lookup_cons, List.find?_cons, ih]
        by_cases h : g.setting = s
        · simp [h]
        · have hne : (s == g.setting) = false := beq_eq_false_iff_ne.mpr fun hc => h hc.symm
          simp [h, hne]
  rw [effective?, textOf, hlookup]
  cases given.find? fun g => g.setting = s with
  | some g => rfl
  | none =>
      cases env s.envName with
      | some value => rfl
      | none => rfl

/-- Every setting but the address for metrics has a text. -/
theorem exists_textOf (hs : s ≠ .metricsAddr) : ∃ text, textOf given env s = some text := by
  have hdefault : ∃ text, s.default? = some text := by
    cases s with
    | metricsAddr => exact absurd rfl hs
    | _ => exact ⟨_, rfl⟩
  unfold textOf
  cases given.find? fun g => g.setting = s with
  | some g => exact ⟨_, rfl⟩
  | none =>
      cases env s.envName with
      | some value => exact ⟨_, rfl⟩
      | none => exact hdefault

/-- A setting that is not given gets its text from elsewhere. -/
theorem textOf_of_not_mem (hs : s ∉ given.map Given.setting) :
    textOf given env s = (env s.envName).or s.default? := by
  have hfind : (given.find? fun g => g.setting = s) = none := by
    refine List.find?_eq_none.mpr fun g hg hsetting => ?_
    exact hs (List.mem_map.mpr ⟨g, hg, of_decide_eq_true hsetting⟩)
  rw [textOf, hfind]
  cases env s.envName <;> rfl

section Distinct

variable (hnodup : (given.map Given.setting).Nodup)
include hnodup

omit s in
/-- The text of a setting that is given is that of its flag. -/
theorem textOf_of_mem (g : Given) (hg : g ∈ given) :
    textOf given env g.setting = some g.value := by
  cases hfind : given.find? fun h => h.setting = g.setting with
  | none => exact absurd (decide_eq_true rfl) (List.find?_eq_none.mp hfind g hg)
  | some found =>
      have hsetting : found.setting = g.setting :=
        of_decide_eq_true (List.find?_some (p := fun h : Given => h.setting = g.setting) hfind)
      have hsame := List.inj_on_of_nodup_map hnodup (List.mem_of_find?_eq_some hfind) hg hsetting
      rw [textOf, hfind, hsame]

/-- The texts do not depend on the order and the spelling of what is given, nor on the
variables behind it. -/
theorem textOf_congr (others : List Given) (env' : String → Option String)
    (hperm : (others.map fun g => (g.setting, g.value)).Perm
      (given.map fun g => (g.setting, g.value)))
    (henv : ∀ s, s ∉ given.map Given.setting → env' s.envName = env s.envName) :
    textOf others env' s = textOf given env s := by
  have hsettings := settings_perm hperm
  by_cases hs : s ∈ given.map Given.setting
  · rcases List.mem_map.mp hs with ⟨g, hg, rfl⟩
    rcases List.mem_map.mp (hperm.mem_iff.mpr (List.mem_map.mpr ⟨g, hg, rfl⟩))
      with ⟨other, hother, hpair⟩
    rw [Prod.mk.injEq] at hpair
    rw [textOf_of_mem given env hnodup g hg, ← hpair.1, ← hpair.2]
    exact textOf_of_mem others env' (hsettings.nodup_iff.mpr hnodup) other hother
  · rw [textOf_of_not_mem given env s hs, ← henv s hs]
    exact textOf_of_not_mem others env' s fun hc => hs (hsettings.mem_iff.mp hc)

omit s in
/-- The settings are read from a command line and an environment exactly if each given
value is accepted and the texts give them. -/
theorem read_eq_ok_iff (settings : Settings) :
    Options.read (commandLine given) env = .ok settings ↔
      (∀ g ∈ given, Accepts g.setting g.value) ∧
        Settings.ofTexts (textOf given env) = .ok settings := by
  have hall := foldlM_take_eq_ok_iff given [] hnodup
  have hline : readArguments .start (commandLine given) = given.foldlM take ⟨[], none⟩ :=
    readArguments_commandLine given .start
  have heffective := funext (effective?_eq_textOf given env)
  rw [Options.read, bind_eq_ok_iff, hline]
  constructor
  · rintro ⟨p, hp, hsettings⟩
    rcases (hall p).mp hp with ⟨haccepts, rfl⟩
    rw [List.nil_append, heffective] at hsettings
    exact ⟨haccepts, hsettings⟩
  · rintro ⟨haccepts, hsettings⟩
    refine ⟨_, (hall _).mpr ⟨haccepts, rfl⟩, ?_⟩
    rw [List.nil_append, heffective]
    exact hsettings

omit s in
/-- A command line and an environment give a configuration exactly if it agrees with
the texts of the settings. -/
theorem readConfig_eq_ok_iff (config : Config) :
    readConfig idna (commandLine given) env = .ok config ↔
      Agrees idna (textOf given env) config := by
  have hread : readConfig idna (commandLine given) env = .ok config ↔
      ∃ settings, Options.read (commandLine given) env = .ok settings ∧
        settings.config idna = .ok config := by
    unfold readConfig
    cases Options.read (commandLine given) env with
    | error cause => simp only [reduceCtorEq, false_and, exists_false]
    | ok settings =>
        simp only [Except.ok.injEq, exists_eq_left']
        cases settings.config idna <;> simp only [reduceCtorEq, Except.ok.injEq]
  rw [hread, ← agrees_iff]
  constructor
  · rintro ⟨settings, hsettings, hconfig⟩
    exact ⟨settings, ((read_eq_ok_iff given env hnodup settings).mp hsettings).2, hconfig⟩
  · rintro ⟨settings, hsettings, hconfig⟩
    have hagrees := (agrees_iff idna _ config).mp ⟨settings, hsettings, hconfig⟩
    refine ⟨settings, (read_eq_ok_iff given env hnodup settings).mpr ⟨fun g hg => ?_, hsettings⟩,
      hconfig⟩
    -- What is given is the text of its setting, and the configuration has read it.
    exact accepts_of_agrees idna _ g.setting config hagrees g.value
      (textOf_of_mem given env hnodup g hg)

end Distinct

end Sources

/-- Texts that are all accepted, with a web URL among them, make a configuration. -/
theorem exists_agrees (idna : Url.Idna) (given : List Given) (env : String → Option String)
    (haccepts : ∀ s text, textOf given env s = some text → Accepts s text)
    (hurl : ∃ text url, textOf given env .baseUrl = some text ∧ Url.read idna text = .ok url ∧
      url.isWeb = true) :
    ∃ config, Agrees idna (textOf given env) config := by
  have hreads : ∀ s : Setting, s ≠ .metricsAddr → ∃ value, Reads (textOf given env) s value := by
    intro s hs
    rcases exists_textOf given env s hs with ⟨text, htext⟩
    rcases haccepts s text htext with ⟨value, hread⟩
    exact ⟨value, text, htext, hread⟩
  rcases hurl with ⟨text, url, htext, hurl, hweb⟩
  rcases hreads .limit (by decide) with ⟨limit, hlimit⟩
  rcases hreads .vus (by decide) with ⟨vus, hvus⟩
  rcases hreads .duration (by decide) with ⟨duration, hduration⟩
  rcases hreads .maxPages (by decide) with ⟨maxPages, hmaxPages⟩
  rcases hreads .requestTimeout (by decide) with ⟨requestTimeout, hrequestTimeout⟩
  -- Only the address for metrics may be without a text.
  cases hmetrics : textOf given env .metricsAddr with
  | none =>
      exact ⟨⟨url, limit, vus, duration, maxPages, requestTimeout, none⟩, ⟨text, htext, hurl, hweb⟩,
        hlimit, hvus, hduration, hmaxPages, hrequestTimeout, hmetrics⟩
  | some written =>
      rcases haccepts .metricsAddr written hmetrics with ⟨address, hread⟩
      exact ⟨⟨url, limit, vus, duration, maxPages, requestTimeout, some address⟩,
        ⟨text, htext, hurl, hweb⟩, hlimit, hvus, hduration, hmaxPages, hrequestTimeout,
        written, hmetrics, hread⟩

/-- The configuration of settings that are given once each, and of an environment. There
is one exactly if every setting accepts its own text and the base URL is a web URL. It
holds what the settings say, nothing in it is zero that must not be, and the scenarios
of a run have its users and its duration. The order and the spelling of what is given
have no say in it, nor have the variables behind it, and what it holds for a setting
depends on the text of no other one. -/
theorem readConfig_precedence (idna : Url.Idna) (given : List Given)
    (hnodup : (given.map Given.setting).Nodup) (env : String → Option String) :
    let texts := textOf given env
    ((∃ config, readConfig idna (commandLine given) env = .ok config) ↔
      (∀ s text, texts s = some text → Accepts s text) ∧
        ∃ text url, texts .baseUrl = some text ∧ Url.read idna text = .ok url ∧ url.isWeb = true) ∧
    (∀ config, readConfig idna (commandLine given) env = .ok config →
      Agrees idna texts config ∧
      1 ≤ config.limit.val ∧ 1 ≤ config.vus.val ∧ 1 ≤ config.maxPages.val ∧
      ∀ shape ∈ Bench.shapes, (config.scenario shape.name).vus = config.vus ∧
        (config.scenario shape.name).duration = config.duration) ∧
    (∀ (others : List Given) (env' : String → Option String),
      (others.map fun g => (g.setting, g.value)).Perm (given.map fun g => (g.setting, g.value)) →
      (∀ s, s ∉ given.map Given.setting → env' s.envName = env s.envName) →
      ∀ config, readConfig idna (commandLine others) env' = .ok config ↔
        readConfig idna (commandLine given) env = .ok config) ∧
    (∀ (others : List Given) (env' : String → Option String) (config other : Config),
      (others.map Given.setting).Nodup →
      readConfig idna (commandLine given) env = .ok config →
      readConfig idna (commandLine others) env' = .ok other →
      ∀ s, textOf others env' s = texts s → SameAt config other s) := by
  intro texts
  have hagrees := readConfig_eq_ok_iff idna given env hnodup
  refine ⟨⟨?_, ?_⟩, fun config hconfig => ?_, fun others env' hperm henv config => ?_,
    fun others env' config other hothers hconfig hother s hs => ?_⟩
  · rintro ⟨config, hconfig⟩
    rcases ((hagrees config).mp hconfig).baseUrl with ⟨text, htext, hurl, hweb⟩
    exact ⟨fun s => accepts_of_agrees idna texts s config ((hagrees config).mp hconfig),
      text, _, htext, hurl, hweb⟩
  · rintro ⟨haccepts, hurl⟩
    rcases exists_agrees idna given env haccepts hurl with ⟨config, h⟩
    exact ⟨config, (hagrees config).mpr h⟩
  · exact ⟨(hagrees config).mp hconfig, config.limit.pos, config.vus.pos, config.maxPages.pos,
      fun shape _ => ⟨rfl, rfl⟩⟩
  · have hothers : (others.map Given.setting).Nodup :=
      (settings_perm hperm).nodup_iff.mpr hnodup
    have htexts : textOf others env' = texts :=
      funext fun s => textOf_congr given env s hnodup others env' hperm henv
    rw [readConfig_eq_ok_iff idna others env' hothers, hagrees, htexts]
  · exact sameAt_of_agrees idna texts s _ config other ((hagrees config).mp hconfig)
      ((readConfig_eq_ok_iff idna others env' hothers other).mp hother) hs

/-- Two settings on the command line. -/
def flagsOfTwo : List Given :=
  [⟨.vus, "8", true, by decide⟩, ⟨.limit, "50", false, by decide⟩]

/-- The same, the other way round and in the other spellings. -/
def flagsOfTwoSwapped : List Given :=
  [⟨.limit, "50", true, by decide⟩, ⟨.vus, "8", false, by decide⟩]

/-- An environment with a page size that is none. -/
def noSize (name : String) : Option String :=
  if name = "LIMIT" then some "none" else none

/-- The flag hides a variable that could not be read. -/
theorem readConfig_precedence_hidden :
    (flagsOfTwo.map Given.setting).Nodup ∧
    ∃ config, readConfig .none ["--vus=8", "--limit", "50"] noSize = .ok config ∧
      config.limit.val = 50 ∧ config.vus.val = 8 ∧ config.duration = .ofSecs 20 ∧
      readConfig .none ["--limit=50", "--vus", "8"] (fun _ => none) = .ok config := by
  have hnodup : (flagsOfTwo.map Given.setting).Nodup := by decide
  have hok : (readConfig .none ["--vus=8", "--limit", "50"] noSize).toOption.isSome = true := by
    decide +kernel
  rcases readConfig_precedence .none flagsOfTwo hnodup noSize with ⟨-, hholds, hsame, -⟩
  have hline : commandLine flagsOfTwo = ["--vus=8", "--limit", "50"] := by decide +kernel
  have hswapped : commandLine flagsOfTwoSwapped = ["--limit=50", "--vus", "8"] := by
    decide +kernel
  rw [hline] at hholds hsame
  have hvariables : ∀ s, s ∉ flagsOfTwo.map Given.setting → none = noSize s.envName := by
    intro s hs
    cases s with
    | limit => exact absurd (by decide) hs
    | _ => decide +kernel
  have hduration : textOf flagsOfTwo noSize .duration = some "20s" := by decide +kernel
  cases hconfig : readConfig .none ["--vus=8", "--limit", "50"] noSize with
  | error fault =>
      rw [hconfig] at hok
      exact absurd hok Bool.false_ne_true
  | ok config =>
      have hagrees := (hholds config hconfig).1
      refine ⟨hnodup, config, rfl, ?_, ?_, ?_, ?_⟩
      · rcases hagrees.limit with ⟨text, htext, hread⟩
        have hfifty : "50" = text := Option.some.inj htext
        rw [← hfifty] at hread
        exact congrArg Positive.val (Except.ok.inj hread).symm
      · rcases hagrees.vus with ⟨text, htext, hread⟩
        have height : "8" = text := Option.some.inj htext
        rw [← height] at hread
        exact congrArg Positive.val (Except.ok.inj hread).symm
      · rcases hagrees.duration with ⟨text, htext, hread⟩
        rw [← Option.some.inj (hduration.symm.trans htext)] at hread
        exact (Except.ok.inj hread).symm
      · rw [← hswapped]
        exact (hsame flagsOfTwoSwapped (fun _ => none) (by decide) hvariables config).mpr hconfig

end Options

end PageSweep
