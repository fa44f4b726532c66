import PageSweep.Proofs.Bench.Execution
import PageSweep.Proofs.Options.Precedence
import PageSweep.Proofs.Text.Numeral
import PageSweep.Proofs.Time.Span

/-!
# What Can Be Started

Settings are checked when they are read, and once more when a run begins. The two checks
do not agree. The reader takes every span of less than 2^64 seconds and every number of
users of 64 bits, because that is what the types hold. The clock counts seconds in a
signed number, and the list of users must be addressable, so a run needs less than 2^63
seconds up to its end and less than 2^60 users.

Whatever lies between is accepted and then ends the program when the first scenario is
set up. This is before any request, but it is no refusal of a setting.

No span of 2^64 seconds can be read, since every sum on the way is looked at. The other
direction is the round trip of spans and of numerals: whatever the types hold can be
written, and reads back.

## Main definitions

* `Span.Checked`: A computation gives no span of 2^64 seconds or more.
* `Scenario.deadline`: When a scenario ends that starts at a reading of the clock.
* `Scenario.startAt`: A scenario is started at a reading of the clock.
* `Config.Startable`: Which scenarios can be.
* `Options.lengthAndUsers`: A command line with a length and a number of users.

## Theorems

* `Span.secs_lt_of_read`: A span that is read has less than 2^64 seconds.
* `Options.exists_accepted_iff`: The lengths and users that are accepted.
* `Config.startAt_cases`: What can be started.
* `Bench.run_cases`: What can be run.
* `Options.accepted_starts`: What is accepted against what can be started.
-/

namespace PageSweep

namespace Span

open Options (bind_eq_ok_iff)

/-- A computation gives no span but of less than 2^64 seconds. -/
def Checked (x : Except Fault Span) : Prop :=
  ∀ span, x = .ok span → span.secs < 0x10000000000000000

section Checked

theorem throw_ne_ok {α : Type} (cause : Fault) (a : α) :
    (throw cause : Except Fault α) ≠ .ok a := by
  simp [throw, throwThe, MonadExceptOf.throw]

theorem checked_error (cause : Fault) : Checked (.error cause) := by
  intro span h
  exact absurd h (by simp only [reduceCtorEq, not_false_eq_true])

theorem checked_ok (span : Span) (h : span.secs < 0x10000000000000000) : Checked (.ok span) := by
  intro other hother
  rw [← Except.ok.inj hother]
  exact h

theorem checked_bind {α : Type} (x : Except Fault α) (f : α → Except Fault Span)
    (h : ∀ a, x = .ok a → Checked (f a)) : Checked (x >>= f) := by
  intro span hspan
  rcases (bind_eq_ok_iff _ _ _).mp hspan with ⟨a, ha, hf⟩
  exact h a ha span hf

theorem lt_of_word (n m : Nat) (h : word n = .ok m) : n < 0x10000000000000000 := by
  unfold word at h
  by_cases hlt : n < 0x10000000000000000
  · exact hlt
  · rw [if_neg hlt] at h
    exact absurd h (by simp only [reduceCtorEq, not_false_eq_true])

variable (sum : Span)

/-- The seconds of a sum are looked at before it is returned. -/
theorem checked_add (secs nanos : Nat) : Checked (sum.add secs nanos) := by
  unfold add
  refine checked_bind _ _ fun below _ => checked_bind _ _ fun whole _ => ?_
  dsimp only
  split
  · exact checked_error _
  · exact checked_bind _ _ fun m hm => checked_ok _ (lt_of_word _ m hm)

/-- A number of units is added in one or two steps. -/
theorem checked_addUnits (unit : Unit) (n : Nat) (f : Option Fraction) :
    Checked (sum.addUnits unit n f) := by
  have htwo : ∀ (mid : Span) (x : Except Fault Nat) (secs nanos : Nat → Nat),
      Checked (x >>= fun k => mid.add (secs k) (nanos k)) := fun mid x secs nanos =>
    checked_bind _ _ fun k _ => checked_add mid (secs k) (nanos k)
  unfold addUnits
  cases unit with
  | nanosecond =>
      refine checked_bind _ _ fun k _ => checked_bind _ _ fun mid hmid => ?_
      cases f with
      | none => exact checked_ok mid (checked_add _ _ _ mid hmid)
      | some f => exact checked_error _
  | microsecond | millisecond | second | minute =>
      refine checked_bind _ _ fun k _ => checked_bind _ _ fun mid hmid => ?_
      cases f with
      | none => exact checked_ok mid (checked_add _ _ _ mid hmid)
      | some f => exact htwo mid _ (fun _ => 0) id
  | hour | day | week | month | year =>
      refine checked_bind _ _ fun k _ => checked_bind _ _ fun mid hmid => ?_
      cases f with
      | none => exact checked_ok mid (checked_add _ _ _ mid hmid)
      | some f => exact htwo mid _ id fun _ => 0

end Checked

namespace Reader

/-- What follows a number, with a fraction if there is one: the name of a unit. -/
def afterNumber (sum : Span) (n : Nat) (f : Option Fraction) (mark : Nat) (text : List Char) :
    Except Fault (Span × Nat × List Char) := do
  let (name, offset, text) ← unit [] mark text
  if name.isEmpty then throw (.unitNeeded n)
  match Unit.ofName? name with
  | none => throw (.unknownUnit name)
  | some unit => return (← sum.addUnits unit n f, offset, text)

variable (sum next : Span) (text rest : List Char) (stop : Nat)

theorem secs_lt_of_afterNumber (n mark : Nat) (f : Option Fraction)
    (h : afterNumber sum n f mark text = .ok (next, stop, rest)) :
    next.secs < 0x10000000000000000 := by
  unfold afterNumber at h
  rcases (bind_eq_ok_iff _ _ _).mp h with ⟨⟨name, last, left⟩, -, h⟩
  dsimp only at h
  by_cases hempty : name.isEmpty = true
  · rw [if_pos hempty] at h
    exact absurd h (throw_ne_ok _ _)
  rw [if_neg hempty] at h
  cases hname : Unit.ofName? name with
  | none =>
      rw [hname] at h
      exact absurd h (throw_ne_ok _ _)
  | some unit =>
      rw [hname] at h
      rcases (bind_eq_ok_iff _ _ _).mp h with ⟨found, hfound, h⟩
      rw [← (Prod.mk.inj (Except.ok.inj h)).1]
      exact checked_addUnits sum unit n f found hfound

/-- A number with a unit leads to a sum that was looked at. -/
theorem secs_lt_of_item (offset : Nat) (h : item sum offset text = .ok (next, stop, rest)) :
    next.secs < 0x10000000000000000 := by
  unfold item at h
  rcases (bind_eq_ok_iff _ _ _).mp h with ⟨⟨n, mark, behind⟩, -, h⟩
  dsimp only at h
  split at h
  · rcases (bind_eq_ok_iff _ _ _).mp h with ⟨⟨f, mark, behind⟩, -, h⟩
    exact secs_lt_of_afterNumber sum next behind rest stop n mark (some f) h
  · exact secs_lt_of_afterNumber sum next behind rest stop n mark none h

/-- Every sum on the way is one that was looked at, by induction on the number of parts. -/
theorem secs_lt_of_items (fuel offset : Nat) (hsum : sum.secs < 0x10000000000000000)
    (h : items fuel sum offset text = .ok next) : next.secs < 0x10000000000000000 := by
  induction fuel generalizing sum offset text with
  | zero =>
      rw [items, Except.ok.injEq] at h
      rw [← h]
      exact hsum
  | succ more ih =>
      unfold items at h
      dsimp only at h
      split at h
      · rw [← Except.ok.inj h]
        exact hsum
      · next c rest hrest =>
          by_cases hdigit : c.isDigit = true
          · rw [if_pos hdigit] at h
            rcases (bind_eq_ok_iff _ _ _).mp h with ⟨⟨middle, stop, left⟩, hitem, hitems⟩
            exact ih middle left stop (secs_lt_of_item _ _ _ _ _ _ hitem) hitems
          · rw [if_neg hdigit] at h
            exact absurd h (by simp only [reduceCtorEq, not_false_eq_true])

end Reader

/-- A span that is read has less than 2^64 seconds. -/
theorem secs_lt_of_read (text : String) (span : Span) (h : read text = .ok span) :
    span.secs < 0x10000000000000000 := by
  unfold read at h
  by_cases hzero : text = "0"
  · rw [if_pos hzero] at h
    rw [← Except.ok.inj h]
    decide
  rw [if_neg hzero] at h
  by_cases hblank : text.toList.all Text.isBlank = true
  · rw [if_pos hblank] at h
    exact absurd h (by simp only [reduceCtorEq, not_false_eq_true])
  · rw [if_neg hblank] at h
    exact Reader.secs_lt_of_items _ _ _ _ _ (by decide) h

end Span

namespace Options

variable (idna : Url.Idna)

section Accepted

/-- A command line with a length and a number of users. -/
def lengthAndUsers (duration : Span) (vus : UserCount) : List Given :=
  [⟨.duration, duration.text, true, Or.inl rfl⟩, ⟨.vus, toString vus.val, true, Or.inl rfl⟩]

theorem read_vus (vus : UserCount) : Setting.read .vus (toString vus.val) = .ok vus := by
  have hread := Numeral.read_padded 10 0x10000000000000000 (by decide) (by decide) 0 vus.val vus.lt
  have hdigits : (toString vus.val).toList = Nat.toDigits 10 vus.val := Nat.toList_repr
  rw [List.replicate_zero, List.nil_append, ← hdigits] at hread
  change Setting.readPositive _ _ = _
  rw [Setting.readPositive, hread]
  dsimp only
  rw [Positive.ofNat?, dif_pos ⟨vus.pos, vus.lt⟩]
  rfl

theorem read_duration (duration : Span) (h : duration.secs < 0x10000000000000000) :
    Setting.read .duration duration.text = .ok duration := by
  change Setting.readSpan _ = _
  rw [Setting.readSpan, Span.read_text duration h]
  rfl

/-- A result that is told something about is there. -/
theorem exists_ok_of_map {ε α β : Type} (x : Except ε α) (f : α → β) (b : β)
    (h : x.toOption.map f = some b) : ∃ a, x = .ok a ∧ f a = b := by
  cases x with
  | error fault => exact absurd h (Option.some_ne_none b).symm
  | ok a => exact ⟨a, rfl, Option.some.inj h⟩

/-- There is a configuration without any settings given. -/
theorem exists_agrees_default : ∃ config, Agrees idna (textOf [] fun _ => none) config := by
  have hread : (readConfig idna (commandLine []) fun _ => none).toOption.map
      (fun config => config.vus.val) = some Config.defaultVus.val := by
    rfl
  rcases exists_ok_of_map _ _ _ hread with ⟨config, hconfig, -⟩
  exact ⟨config, (readConfig_eq_ok_iff idna [] _ List.nodup_nil config).mp hconfig⟩

/-- Whatever the types hold can be written, and is accepted. -/
theorem exists_accepted (duration : Span) (vus : UserCount)
    (h : duration.secs < 0x10000000000000000) :
    ∃ config, readConfig idna (commandLine (lengthAndUsers duration vus)) (fun _ => none)
        = .ok config ∧
      config.duration = duration ∧ config.vus = vus := by
  rcases exists_agrees_default idna with ⟨config, hagrees⟩
  refine ⟨{ config with duration := duration, vus := vus }, ?_, rfl, rfl⟩
  have hnodup : ((lengthAndUsers duration vus).map Given.setting).Nodup := by
    change [Setting.duration, Setting.vus].Nodup
    decide
  refine (readConfig_eq_ok_iff idna _ _ hnodup _).mpr ?_
  -- The other settings keep their defaults.
  exact ⟨hagrees.baseUrl, hagrees.limit, ⟨_, rfl, read_vus vus⟩,
    ⟨_, rfl, read_duration duration h⟩, hagrees.maxPages, hagrees.requestTimeout,
    hagrees.metricsAddr⟩

/-- However it was accepted, a length has less than 2^64 seconds. -/
theorem duration_lt_of_readConfig (arguments : List String) (env : String → Option String)
    (config : Config) (h : readConfig idna arguments env = .ok config) :
    config.duration.secs < 0x10000000000000000 := by
  unfold readConfig at h
  cases hsettings : Options.read arguments env with
  | error cause =>
      rw [hsettings] at h
      exact absurd h (by simp only [reduceCtorEq, not_false_eq_true])
  | ok settings =>
      rw [hsettings] at h
      dsimp only at h
      cases hconfig : settings.config idna with
      | error cause =>
          rw [hconfig] at h
          exact absurd h (by simp only [reduceCtorEq, not_false_eq_true])
      | ok other =>
          rw [hconfig, Except.ok.injEq] at h
          rw [h] at hconfig
          rcases (bind_eq_ok_iff _ _ _).mp hsettings with ⟨p, -, htexts⟩
          rcases ((agrees_iff idna _ config).mp ⟨settings, htexts, hconfig⟩).duration
            with ⟨text, -, hread⟩
          change Setting.readSpan text = .ok config.duration at hread
          unfold Setting.readSpan at hread
          cases hspan : Span.read text with
          | error cause =>
              rw [hspan] at hread
              exact absurd hread (by simp only [reduceCtorEq, not_false_eq_true])
          | ok span =>
              rw [hspan, Except.ok.injEq] at hread
              rw [← hread]
              exact Span.secs_lt_of_read text span hspan

/-- The lengths and numbers of users that are accepted. -/
theorem exists_accepted_iff (duration : Span) (vus : UserCount) :
    (∃ arguments env config, readConfig idna arguments env = .ok config ∧
      config.duration = duration ∧ config.vus = vus) ↔ duration.secs < 0x10000000000000000 := by
  constructor
  · rintro ⟨arguments, env, config, hconfig, rfl, -⟩
    exact duration_lt_of_readConfig idna arguments env config hconfig
  · intro h
    rcases exists_accepted idna duration vus h with ⟨config, hconfig, hduration, hvus⟩
    exact ⟨_, _, config, hconfig, hduration, hvus⟩

end Accepted

end Options

/-- When a scenario ends that starts at a reading of the clock. -/
def Scenario.deadline (s : Scenario) (start : Span) : Span := ⟨start.nanos + s.duration.nanos⟩

/-- A scenario is started at a reading of the clock. -/
def Scenario.startAt (s : Scenario) (start : Span) : Except Scenario.Crash Scenario :=
  if 0x8000000000000000 ≤ (s.deadline start).secs then .error .clock
  else if 0x8000000000000000 ≤ s.vus.val * Scenario.userSize then .error .users
  else .ok s

/-- A run is set up when the clock shows zero. -/
theorem Scenario.startAt_zero (s : Scenario) : s.startAt .zero = s.setUp := by
  have hdeadline : s.deadline .zero = s.duration := by
    rw [deadline, Span.zero, Nat.zero_add]
  rw [startAt, hdeadline, setUp]

section Starting

variable (config : Config)

/-- Whether the clock has the end of a scenario that starts at one of its readings, and
its users can be listed. -/
structure Config.Startable (start : Span) : Prop where
  clock : start.nanos + config.duration.nanos < 0x8000000000000000 * 1000000000
  users : config.vus.val < 0x1000000000000000

/-- What can be started. -/
theorem Config.startAt_cases (start : Span) (name : String) :
    config.Startable start ∧ (config.scenario name).startAt start = .ok (config.scenario name) ∨
      ¬ config.Startable start ∧ ∃ cause, (config.scenario name).startAt start = .error cause := by
  have hsecs : ((config.scenario name).deadline start).secs
      = (start.nanos + config.duration.nanos) / 1000000000 := rfl
  have hvus : (config.scenario name).vus.val * Scenario.userSize = config.vus.val * 8 := rfl
  unfold Scenario.startAt
  rw [hsecs, hvus]
  by_cases hclock : 0x8000000000000000 ≤ (start.nanos + config.duration.nanos) / 1000000000
  · rw [if_pos hclock]
    exact Or.inr ⟨fun h => by have := h.clock; omega, _, rfl⟩
  rw [if_neg hclock]
  by_cases husers : 0x8000000000000000 ≤ config.vus.val * 8
  · rw [if_pos husers]
    exact Or.inr ⟨fun h => by have := h.users; omega, _, rfl⟩
  · rw [if_neg husers]
    exact Or.inl ⟨⟨by omega, by omega⟩, rfl⟩

/-- A run is executed if its scenarios can be started at zero, and else nothing of it is,
whatever the client and the server are. -/
theorem Bench.run_cases :
    config.Startable .zero ∧
      (∀ (σ : Type) (client : Client σ) (now : Instant) (server : σ),
        run client config now server = .ok (execution client config now server)) ∨
    ¬ config.Startable .zero ∧
      ∃ cause, ∀ (σ : Type) (client : Client σ) (now : Instant) (server : σ),
        run client config now server = .error cause := by
  have hfirst := config.startAt_cases .zero Flow.lastDay.name
  have hsecond := config.startAt_cases .zero Flow.lastMonth.name
  rw [Scenario.startAt_zero] at hfirst hsecond
  rcases hfirst with ⟨hstartable, hfirst⟩ | ⟨hnot, cause, hfirst⟩
  · rcases hsecond with ⟨-, hsecond⟩ | ⟨hnot, -⟩
    · refine Or.inl ⟨hstartable, fun σ client now server => ?_⟩
      rw [run_eq_setUp, hfirst, hsecond]
      rfl
    · exact absurd hstartable hnot
  · refine Or.inr ⟨hnot, cause, fun σ client now server => ?_⟩
    rw [run_eq_setUp, hfirst]
    rfl

end Starting

namespace Options

/-- What is accepted, and what of it can be started. The length and the users of a
configuration are accepted on some command line if and only if the length is less than 2^64
seconds. A scenario of the configuration can be started if and only if its end comes before
2^63 seconds on the clock and there are less than 2^60 users. A run of scenarios that can be
started at zero is executed. Every other run crashes while it is set up, so that no
request is sent. -/
theorem accepted_starts (idna : Url.Idna) (config : Config) :
    ((∃ arguments env accepted, readConfig idna arguments env = .ok accepted ∧
        accepted.duration = config.duration ∧ accepted.vus = config.vus) ↔
      config.duration.secs < 0x10000000000000000) ∧
    (∀ (start : Span) (name : String),
      ((config.scenario name).startAt start = .ok (config.scenario name) ↔
        config.Startable start) ∧
      ((∃ cause, (config.scenario name).startAt start = .error cause) ↔
        ¬ config.Startable start)) ∧
    (config.Startable .zero →
      ∀ (σ : Type) (client : Bench.Client σ) (now : Instant) (server : σ),
        Bench.run client config now server
          = .ok (Bench.execution client config now server)) ∧
    (¬ config.Startable .zero →
      ∃ cause, ∀ (σ : Type) (client : Bench.Client σ) (now : Instant) (server : σ),
        Bench.run client config now server = .error cause) := by
  refine ⟨exists_accepted_iff idna config.duration config.vus, fun start name => ?_, fun h => ?_,
    fun h => ?_⟩
  · rcases config.startAt_cases start name with ⟨h, hok⟩ | ⟨h, cause, herror⟩
    · rw [hok]
      exact ⟨iff_of_true rfl h, by simp [h]⟩
    · rw [herror]
      exact ⟨by simp [h], iff_of_true ⟨cause, rfl⟩ h⟩
  · rcases Bench.run_cases config with ⟨-, hrun⟩ | ⟨hnot, -⟩
    · exact hrun
    · exact absurd h hnot
  · rcases Bench.run_cases config with ⟨hstartable, -⟩ | ⟨-, hrun⟩
    · exact absurd hstartable h
    · exact hrun

/-- A run of 2^63 seconds is accepted, and so are 2^60 users, but neither can be set
up. -/
theorem accepted_crashes :
    (∃ config, readConfig .none ["--duration", "9223372036854775808s"] (fun _ => none)
        = .ok config ∧
      ∀ name, (config.scenario name).setUp = .error .clock) ∧
    ∃ config, readConfig .none ["--vus", "1152921504606846976"] (fun _ => none) = .ok config ∧
      ∀ name, (config.scenario name).setUp = .error .users := by
  constructor
  · have hread : (readConfig .none ["--duration", "9223372036854775808s"]
        fun _ => none).toOption.map (fun config => config.duration.nanos)
          = some 9223372036854775808000000000 := by
      decide +kernel
    rcases exists_ok_of_map _ _ _ hread with ⟨config, hconfig, hnanos⟩
    have hsecs : 0x8000000000000000 ≤ config.duration.secs := by
      unfold Span.secs
      omega
    exact ⟨config, hconfig, fun name => if_pos hsecs⟩
  · have hread : (readConfig .none ["--vus", "1152921504606846976"] fun _ => none).toOption.map
        (fun config => (config.duration.nanos, config.vus.val))
          = some (20000000000, 1152921504606846976) := by
      decide +kernel
    rcases exists_ok_of_map _ _ _ hread with ⟨config, hconfig, hboth⟩
    rcases Prod.mk.inj hboth with ⟨hnanos, hvus⟩
    have hsecs : ¬ 0x8000000000000000 ≤ config.duration.secs := by
      unfold Span.secs
      omega
    have husers : 0x8000000000000000 ≤ config.vus.val * 8 := by omega
    exact ⟨config, hconfig, fun name => (if_neg hsecs).trans (if_pos husers)⟩

end Options

end PageSweep
