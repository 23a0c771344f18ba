import SciCalc.Calculator.Request
import SciCalc.Proofs.Calculations

/-!
# Remembered calculations

A calculation that succeeds for a session puts one entry into its history, and every other calculation leaves the store
as it was: nothing is created, moved or evicted for a calculation that fails.
-/

namespace SciCalc

namespace Store

/-- The entries of a session, none if it is not live. -/
def entries (store : Store) (name : String) : List Entry :=
  ((store.sessions.lookup name).map History.entries).getD []

/-- What an entry makes of a store. -/
structure Remembers (before : Store) (name : String) (entry : Entry) (behind : Store) : Prop where
  bounds : behind.maxEntries = before.maxEntries ∧ behind.maxSessions = before.maxSessions
  distinct : behind.names.Nodup
  /-- The session is the most recent one. The entry comes before those that the session had, and as many of them
  stay as the bound admits. -/
  first : behind.sessions.head? = some (name,
    ⟨before.maxEntries.toNat, (entry :: before.entries name).take before.maxEntries.toNat⟩)
  /-- The others keep their entries and their order. -/
  others : behind.sessions.tail.Sublist before.sessions
  /-- Only the least recent one can be gone, when the session is new and the store is full. -/
  gone : ∀ other ∈ before.names, other ∉ behind.names ↔
    name ∉ before.names ∧ (before.names.length : Int) = before.maxSessions ∧ before.names.head? = some other

theorem held_entries (store : Store) (name : String) : (store.held name).entries = store.entries name := by
  rw [held, entries]
  cases store.sessions.lookup name <;> rfl

section

variable {start : Store} {log : List Request}

/-- The one session that can be missing behind an entry. -/
theorem Tells.gone (h : Tells start log) (hstart : start.IsUsable) (name : String) {other : String}
    (hother : other ∈ (start.after log).names) :
    (other ≠ name ∧ ¬∃ history, (other, history) ∈ (start.after log).kept name) ↔
      name ∉ (start.after log).names ∧ ((start.after log).names.length : Int) = (start.after log).maxSessions ∧
        (start.after log).names.head? = some other := by
  by_cases hlive : name ∈ (start.after log).names
  · rw [kept, if_pos hlive, mem_others]
    constructor
    · rintro ⟨hne, hnot⟩
      exact absurd ⟨hne, hother⟩ hnot
    · rintro ⟨hnew, -⟩
      exact absurd hlive hnew
  · have hne : other ≠ name := by
      rintro rfl
      exact hlive hother
    have hpos := hstart.sessions
    have hbound := h.bounded
    have hmax := h.maxSessions
    have hlength := length_names (start.after log)
    obtain ⟨places, hplaces⟩ : ∃ places, (start.after log).maxSessions.toNat = places + 1 :=
      ⟨(start.after log).maxSessions.toNat - 1, by omega⟩
    have hmem : (∃ history, (other, history) ∈ (start.after log).kept name) ↔
        other ∈ ((start.after log).sessions.map Prod.fst).take places := by
      rw [kept, if_neg hlive, hplaces, Nat.add_sub_cancel, ← List.map_take, List.mem_map]
      constructor
      · rintro ⟨history, hkept⟩
        exact ⟨(other, history), hkept, rfl⟩
      · rintro ⟨⟨_, history⟩, hkept, rfl⟩
        exact ⟨history, hkept⟩
    have hdistinct : ((start.after log).sessions.map Prod.fst).Nodup :=
      (List.pairwise_reverse.mp h.nodup_names).imp Ne.symm
    have hlisted : other ∈ (start.after log).sessions.map Prod.fst := List.mem_reverse.mp hother
    have hcut := @not_mem_take_iff _ _ places hdistinct (by rw [List.length_map]; omega) other hlisted
    rw [and_iff_right hne, and_iff_right hlive, hmem, hcut, List.length_map, names, List.head?_reverse,
      List.length_reverse, List.length_map]
    constructor
    · rintro ⟨hfull, hlast⟩
      exact ⟨by omega, hlast⟩
    · rintro ⟨hfull, hlast⟩
      exact ⟨by omega, hlast⟩

theorem Tells.remembers (h : Tells start log) (hstart : start.IsUsable) (name : String) (entry : Entry) :
    Remembers (start.after log) name entry ((start.after log).add name entry).2 := by
  have husable := h.isUsable hstart
  have hheld := h.held_eq name
  have hadd : ((start.after log).add name entry).2 = { start.after log with
      sessions := (name, ((start.after log).held name).add entry) :: (start.after log).kept name } := by
    rw [add, update_eq husable]
  have hnames (other : String) : other ∈ ((start.after log).add name entry).2.names ↔
      other = name ∨ ∃ history, (other, history) ∈ (start.after log).kept name := by
    rw [hadd, mem_names]
    simp only [List.mem_cons, Prod.mk.injEq, exists_or, exists_and_left, exists_eq, and_true]
  constructor
  · rw [hadd]
    exact ⟨rfl, rfl⟩
  · have hnext : Tells start (.add name entry :: log) := h.next_of_session hstart rfl
    exact hnext.nodup_names
  · rw [hadd, List.head?_cons, History.add, held_entries, hheld, h.maxEntries]
  · rw [hadd, List.tail_cons]
    exact kept_sublist (start.after log) name
  · intro other hother
    rw [hnames, not_or]
    exact h.gone hstart name hother

end

end Store

namespace Calculator

/-- The calculators that can come about: one with a new store, and what the answers to requests and other settings make
of it. -/
inductive Reachable : Calculator → Prop
  | create {unit : Scalar} {precision maxLength maxEntries maxSessions : Int} {calculator : Calculator}
    (h : create unit precision maxLength (.create maxEntries maxSessions) = .ok calculator) : Reachable calculator
  | answer {calculator : Calculator} (h : Reachable calculator) (request : Request) :
    Reachable (calculator.answer request).2
  | adjust {calculator : Calculator} (h : Reachable calculator) (unit : AngleUnit) (precision maxLength : Int) :
    Reachable { calculator with unit, precision, maxLength }

section

variable {calculator : Calculator} {entered given : Scalar}

/-- A request is answered without the store, or by one request to it. -/
theorem answer_cases (calculator : Calculator) (request : Request) :
    (∃ reply, ∀ store, { calculator with store }.answer request = (reply, { calculator with store })) ∨
    ∃ (asked : Store.Request) (respond : Except Failure Store.Reply → Except Failure Reply),
      asked.name? = request.session? ∧ ∀ store, { calculator with store }.answer request =
        (respond (store.answer asked).1, { calculator with store := (store.answer asked).2 }) := by
  cases request with
  | store asked => exact Or.inr ⟨asked, (·.map .store), rfl, fun store => rfl⟩
  | calculate entered given session =>
    have hassess (store : Store) :
        { calculator with store }.assess entered given = calculator.assess entered given := rfl
    by_cases hshown : ∃ shown, calculator.assess entered given = .ok ⟨entered, .ok shown⟩
    · obtain ⟨shown, hshown⟩ := hshown
      cases session with
      | none =>
        refine Or.inl ⟨(calculator.assess entered given).map .outcome, fun store => ?_⟩
        rw [answer, calculate_none, hassess]
      | some name =>
        refine Or.inr ⟨.add name ⟨entered, shown.text⟩, (·.map fun _ => .outcome ⟨entered, .ok shown⟩), rfl, ?_⟩
        intro store
        have hcalculate := calculate_of_shown ((hassess store).trans hshown) name
        simp only [answer, hcalculate, Store.answer, map_map]
    · refine Or.inl ⟨(calculator.assess entered given).map .outcome, fun store => ?_⟩
      have hnot : ∀ shown, { calculator with store }.assess entered given ≠ .ok ⟨entered, .ok shown⟩ := by
        intro shown
        rw [hassess]
        exact not_exists.mp hshown shown
      rw [answer, calculate_of_not_shown hnot, hassess]

/-- The store of a calculator is one behind a log of requests, however it came about. -/
theorem Reachable.exists_log (h : Reachable calculator) : ∃ maxEntries maxSessions log,
    calculator.store = (Store.create maxEntries maxSessions).after log := by
  induction h with
  | @create unit precision maxLength maxEntries maxSessions calculator hcreate =>
    obtain ⟨unit, -, hcreate⟩ := bind_eq_ok hcreate
    cases hcreate
    exact ⟨maxEntries, maxSessions, [], rfl⟩
  | @answer calculator _ request ih =>
    obtain ⟨maxEntries, maxSessions, log, hstore⟩ := ih
    rcases calculator.answer_cases request with ⟨reply, hsame⟩ | ⟨asked, respond, -, hanswer⟩
    · have hnext := congrArg Prod.snd (hsame calculator.store)
      exact ⟨maxEntries, maxSessions, log, (congrArg Calculator.store hnext).trans hstore⟩
    · have hnext := congrArg Prod.snd (hanswer calculator.store)
      refine ⟨maxEntries, maxSessions, asked :: log, ?_⟩
      rw [Store.after, ← hstore]
      exact congrArg Calculator.store hnext
  | adjust _ unit precision maxLength ih => exact ih

theorem create_bounds_ne (maxEntries maxSessions : Int) :
    (Store.create maxEntries maxSessions).maxEntries ≠ 0 ∧ (Store.create maxEntries maxSessions).maxSessions ≠ 0 := by
  have hstandard {given standard : Int} (h : standard ≠ 0) : Settings.orStandard given standard ≠ 0 := by
    unfold Settings.orStandard
    split <;> assumption
  exact ⟨hstandard (by decide), hstandard (by decide)⟩

/-- Adding to a store either fails and leaves the store as it was, or the store remembers the entry. -/
theorem Reachable.add_cases (h : Reachable calculator) (name : String) (entry : Entry) :
    (∃ failure, calculator.store.add name entry = (.error failure, calculator.store)) ∨
    ∃ history, (calculator.store.add name entry).1 = .ok history ∧
      calculator.store.Remembers name entry (calculator.store.add name entry).2 := by
  obtain ⟨maxEntries, maxSessions, log, hstore⟩ := h.exists_log
  rw [hstore]
  by_cases husable : (Store.create maxEntries maxSessions).IsUsable
  · have htells := Store.tells husable rfl log
    have hadd := Store.update_eq (htells.isUsable husable) name (·.add entry)
    exact Or.inr ⟨_, congrArg Prod.fst hadd, htells.remembers husable name entry⟩
  · obtain ⟨hentries, hsessions⟩ := create_bounds_ne maxEntries maxSessions
    obtain ⟨failure, hget⟩ := Store.get_of_unusable husable rfl hentries hsessions name
    rw [Store.after_of_unusable husable rfl hentries hsessions]
    exact Or.inl ⟨failure, by simp only [Store.add, Store.update, hget]⟩

/-- A calculation that reports a fault, fails or has no session leaves the calculator as it was. One that succeeds for
a session is remembered there, and nothing else changes. -/
theorem calculate_is_atomic (h : Reachable calculator) (entered given : Scalar) (session : Option String) :
    ((session = none ∨ ∀ shown, (calculator.calculate entered given session).1 ≠ .ok ⟨entered, .ok shown⟩) →
      (calculator.calculate entered given session).2 = calculator) ∧
    ∀ name shown, session = some name →
      (calculator.calculate entered given session).1 = .ok ⟨entered, .ok shown⟩ →
      ∃ behind, (calculator.calculate entered given session).2 = { calculator with store := behind } ∧
        calculator.store.Remembers name ⟨entered, shown.text⟩ behind := by
  by_cases hshown : ∃ shown, calculator.assess entered given = .ok ⟨entered, .ok shown⟩
  · obtain ⟨shown, hassess⟩ := hshown
    cases session with
    | none =>
      rw [calculate_none]
      exact ⟨fun _ => rfl, fun name shown hname => nomatch hname⟩
    | some name =>
      rw [calculate_of_shown hassess]
      rcases h.add_cases name ⟨entered, shown.text⟩ with ⟨failure, hadd⟩ | ⟨history, hadd, hremembers⟩
      · rw [hadd]
        refine ⟨fun _ => rfl, fun name shown _ hanswer => ?_⟩
        simp only [Except.map, reduceCtorEq] at hanswer
      · constructor
        · rintro (hnone | hnot)
          · cases hnone
          · exact absurd (by rw [hadd]; rfl) (hnot shown)
        · intro name' shown' hname hanswer
          obtain rfl : name = name' := Option.some.inj hname
          rw [hadd] at hanswer
          cases hanswer
          exact ⟨_, rfl, hremembers⟩
  · have hnot := not_exists.mp hshown
    rw [calculate_of_not_shown hnot]
    exact ⟨fun _ => rfl, fun name shown _ hanswer => absurd hanswer (hnot shown)⟩

end

section

open Decimal Token

/-- A calculator that has remembered one calculation and has no place for another session. -/
def full : Calculator := ⟨.radians, 12, 1000, ⟨2, 1, [("a", ⟨2, [⟨.text "1", "1"⟩]⟩)]⟩⟩

theorem reachable_full : Reachable full := by
  have hcreate : create .absent 0 0 (.create 2 1) = .ok ⟨.radians, 12, 1000, .create 2 1⟩ := rfl
  exact (Reachable.create hcreate).answer (.store (.add "a" ⟨.text "1", "1"⟩))

theorem assess_full_two : ∃ shown, full.assess (.text "2") .absent = .ok ⟨.text "2", .ok shown⟩ := by
  have hnumeral : IsNumeral ['2'] := isNumeral_digit rfl
  have hvalue : Digits.toFloat false (.ofNumeral ['2']) = ofSignAndBits false 0x4000000000000000 :=
    congrArg (ofSignAndBits false) (by decide +kernel)
  have hfinite : (Digits.toFloat false (.ofNumeral ['2'])).isFinite = true := by
    rw [hvalue]
    exact isFinite_signAndBits false (by decide)
  have hevaluate : full.evaluate (.text "2") .absent = .ok (Digits.toFloat false (.ofNumeral ['2'])) :=
    evaluate_numeral hnumeral rfl (by decide) hfinite
  have hrounded : ¬Display.Overflows (11 + 1 : Nat) (Digits.toFloat false (.ofNumeral ['2'])) := fun hoverflow =>
    absurd ((Display.exists_overflows_iff (by decide)).mp ⟨_, hfinite, hoverflow⟩) (by decide)
  obtain ⟨text, htext⟩ := Display.text_of_not_overflows hfinite (by decide) hrounded Settings.standard.zeroThreshold
  refine ⟨⟨Digits.toFloat false (.ofNumeral ['2']), text⟩, ?_⟩
  have hprecision : full.precision = (11 + 1 : Nat) := rfl
  rw [assess_of_text hevaluate, hprecision, htext]
  rfl

/-- The session that is calculated for takes the place of the other one. -/
theorem calculate_is_atomic_of_full : Reachable full ∧
    (full.calculate (.text "2") .absent none).2 = full ∧
    ∃ shown behind, (full.calculate (.text "2") .absent (some "b")).1 = .ok ⟨.text "2", .ok shown⟩ ∧
      (full.calculate (.text "2") .absent (some "b")).2 = { full with store := behind } ∧
      full.store.Remembers "b" ⟨.text "2", shown.text⟩ behind ∧ "a" ∉ behind.names := by
  obtain ⟨shown, hassess⟩ := assess_full_two
  have hcalculate : (full.calculate (.text "2") .absent (some "b")).1 = .ok ⟨.text "2", .ok shown⟩ := by
    rw [calculate_of_shown hassess]
    rfl
  obtain ⟨behind, hbehind, hremembers⟩ :=
    (calculate_is_atomic reachable_full (.text "2") .absent (some "b")).2 "b" shown rfl hcalculate
  have hnone := (calculate_is_atomic reachable_full (.text "2") .absent none).1 (Or.inl rfl)
  refine ⟨reachable_full, hnone, shown, behind, hcalculate, hbehind, hremembers, ?_⟩
  exact (hremembers.gone "a" (by decide)).mpr ⟨by decide, rfl, rfl⟩

end

end Calculator

end SciCalc
