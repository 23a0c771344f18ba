import Mathlib.Data.List.Perm.Subperm
import SciCalc.Proofs.RememberedCalculations

/-!
# Separate sessions

As long as there is room for all sessions that are asked for, each of them is answered as if it were alone: no request
for another session changes its history, and none evicts it.
-/

namespace SciCalc

namespace Store

/-- Two stores with the same bounds and the same history of one session. -/
structure Agree (name : String) (store alone : Store) : Prop where
  maxEntries : store.maxEntries = alone.maxEntries
  maxSessions : store.maxSessions = alone.maxSessions
  lookup : store.sessions.lookup name = alone.sessions.lookup name

/-- A store that never has to evict one of these sessions for another. -/
structure HasRoom (names : List String) (store : Store) : Prop where
  isUsable : store.IsUsable
  distinct : (store.sessions.map Prod.fst).Nodup
  listed : ∀ session ∈ store.sessions, session.1 ∈ names
  fits : (names.length : Int) ≤ store.maxSessions

section

variable {store alone : Store} {name asked : String} {names : List String} {request : Request}

theorem lookup_others_self (store : Store) (name : String) : (store.others name).lookup name = none := by
  apply List.lookup_eq_none_iff.mpr
  intro session hmem
  have hne : session.1 ≠ name := bne_iff_ne.mp (List.mem_filter.mp hmem).2
  exact bne_iff_ne.mpr hne.symm

theorem lookup_others (hne : name ≠ asked) : (store.others asked).lookup name = store.sessions.lookup name := by
  unfold others
  induction store.sessions with
  | nil => rfl
  | cons session rest ih =>
    obtain ⟨other, history⟩ := session
    rw [List.filter_cons]
    by_cases hother : other = asked
    · subst hother
      have hmiss : (name == other) = false := beq_false_of_ne hne
      simp only [bne_self_eq_false, Bool.false_eq_true, if_false, List.lookup_cons, hmiss, ih]
    · have hkeep : (other != asked) = true := bne_iff_ne.mpr hother
      simp only [hkeep, if_true, List.lookup_cons, ih]

theorem name?_of_session? (h : request.session? = some name) : request.name? = some name := by
  cases request with
  | get other | add other entry | latest other | clear other => exact h
  | drop other | contains other | size => contradiction

theorem isUsable_answer (h : store.IsUsable) (request : Request) :
    (store.answer request).2.maxEntries = store.maxEntries ∧
    (store.answer request).2.maxSessions = store.maxSessions ∧ (store.answer request).2.IsUsable := by
  obtain ⟨hentries, hsessions⟩ : (store.answer request).2.maxEntries = store.maxEntries ∧
      (store.answer request).2.maxSessions = store.maxSessions := by
    cases hsession : request.session? with
    | some asked =>
      rw [(answer_of_session h hsession).2]
      exact ⟨rfl, rfl⟩
    | none =>
      have hlook := sessions_of_look store hsession
      exact ⟨hlook.1, hlook.2.1⟩
  refine ⟨hentries, hsessions, ?_, ?_, ?_⟩
  · rw [hentries]
    exact h.entries
  · rw [hentries]
    exact h.word
  · rw [hsessions]
    exact h.sessions

/-! ### The session's own requests -/

theorem Agree.held_eq (h : Agree name store alone) : store.held name = alone.held name := by
  rw [held, held, h.lookup, h.maxEntries]

theorem Agree.mem_names_iff (h : Agree name store alone) : name ∈ store.names ↔ name ∈ alone.names := by
  have hlive : decide (name ∈ store.names) = decide (name ∈ alone.names) := by
    rw [← isSome_lookup, ← isSome_lookup, h.lookup]
  exact decide_eq_decide.mp hlive

/-- Stores that agree on a session answer its requests alike. -/
theorem Agree.reply_eq (h : Agree name store alone) (hstore : store.IsUsable) (halone : alone.IsUsable)
    (hname : request.name? = some name) : (store.answer request).1 = (alone.answer request).1 := by
  have hheld := h.held_eq
  cases request with
  | get other =>
    cases hname
    simp only [answer, get_eq hstore, get_eq halone, hheld]
  | add other entry =>
    cases hname
    simp only [answer, add, update_eq hstore, update_eq halone, hheld]
  | latest other =>
    cases hname
    simp only [answer, get_eq hstore, get_eq halone, hheld]
  | clear other =>
    cases hname
    simp only [answer, clear, update_eq hstore, update_eq halone, hheld]
  | drop other =>
    cases hname
    simp only [answer, h.lookup]
  | contains other =>
    cases hname
    simp only [answer, contains_eq, h.mem_names_iff]
  | size => contradiction

theorem Agree.next (h : Agree name store alone) (hstore : store.IsUsable) (halone : alone.IsUsable)
    (hname : request.name? = some name) : Agree name (store.answer request).2 (alone.answer request).2 := by
  obtain ⟨hentries, hsessions, -⟩ := isUsable_answer hstore request
  obtain ⟨hentries', hsessions', -⟩ := isUsable_answer halone request
  constructor
  · rw [hentries, hentries', h.maxEntries]
  · rw [hsessions, hsessions', h.maxSessions]
  · cases hsession : request.session? with
    | some asked =>
      obtain rfl : asked = name := Option.some.inj ((name?_of_session? hsession).symm.trans hname)
      rw [(answer_of_session hstore hsession).2, (answer_of_session halone hsession).2, h.held_eq,
        List.lookup_cons_self, List.lookup_cons_self]
    | none =>
      cases request with
      | drop other =>
        cases hname
        exact (lookup_others_self store name).trans (lookup_others_self alone name).symm
      | contains other => exact h.lookup
      | size => contradiction
      | get other | add other entry | latest other | clear other => contradiction

/-! ### Requests for other sessions -/

theorem HasRoom.length_lt (h : store.HasRoom names) (hname : name ∈ names) (hlive : name ∉ store.names) :
    store.sessions.length < names.length := by
  have hnew : name ∉ store.sessions.map Prod.fst := by
    simpa [Store.names] using hlive
  have hnodup : (name :: store.sessions.map Prod.fst).Nodup := List.nodup_cons.mpr ⟨hnew, h.distinct⟩
  have hsubset : name :: store.sessions.map Prod.fst ⊆ names := by
    apply List.cons_subset.mpr
    refine ⟨hname, fun other hother => ?_⟩
    obtain ⟨session, hmem, rfl⟩ := List.mem_map.mp hother
    exact h.listed session hmem
  have hlength := (hnodup.subperm hsubset).length_le
  rw [List.length_cons, List.length_map] at hlength
  omega

/-- Nothing is evicted as long as there is room. -/
theorem HasRoom.kept_eq (h : store.HasRoom names) (hname : name ∈ names) : store.kept name = store.others name := by
  by_cases hlive : name ∈ store.names
  · rw [kept, if_pos hlive]
  · have hlength := h.length_lt hname hlive
    have hfits := h.fits
    have hall : store.others name = store.sessions := by
      apply List.filter_eq_self.mpr
      intro session hmem
      apply bne_iff_ne.mpr
      rintro rfl
      exact hlive (mem_names.mpr ⟨session.2, hmem⟩)
    rw [kept, if_neg hlive, hall, List.take_of_length_le (by omega)]

theorem HasRoom.next (h : store.HasRoom names) (hnames : ∀ asked, request.name? = some asked → asked ∈ names) :
    (store.answer request).2.HasRoom names := by
  obtain ⟨-, hsessions, husable⟩ := isUsable_answer h.isUsable request
  have hfits : (names.length : Int) ≤ (store.answer request).2.maxSessions := by
    rw [hsessions]
    exact h.fits
  cases hsession : request.session? with
  | some asked =>
    have hasked : asked ∈ names := hnames asked (name?_of_session? hsession)
    have hanswer := (answer_of_session h.isUsable hsession).2
    have hsub := kept_sublist store asked
    refine ⟨husable, ?_, ?_, hfits⟩
    · rw [hanswer, List.map_cons]
      apply List.nodup_cons.mpr
      refine ⟨fun hmem => ?_, h.distinct.sublist (hsub.map Prod.fst)⟩
      obtain ⟨session, hkept, heq⟩ := List.mem_map.mp hmem
      exact ne_of_mem_kept hkept heq
    · rw [hanswer]
      exact List.forall_mem_cons.mpr ⟨hasked, fun session hmem => h.listed session (hsub.mem hmem)⟩
  | none =>
    obtain ⟨-, -, hsub⟩ := sessions_of_look store hsession
    exact ⟨husable, h.distinct.sublist (hsub.map Prod.fst), fun session hmem => h.listed session (hsub.mem hmem), hfits⟩

theorem HasRoom.lookup_answer (h : store.HasRoom names) (hnames : ∀ asked, request.name? = some asked → asked ∈ names)
    (hother : request.name? ≠ some name) : (store.answer request).2.sessions.lookup name = store.sessions.lookup name := by
  cases hsession : request.session? with
  | some asked =>
    have hasked := name?_of_session? hsession
    have hne : name ≠ asked := by
      rintro rfl
      exact hother hasked
    have hmiss : (name == asked) = false := beq_false_of_ne hne
    rw [(answer_of_session h.isUsable hsession).2, h.kept_eq (hnames asked hasked)]
    simp only [List.lookup_cons, hmiss, lookup_others hne]
  | none =>
    cases request with
    | drop asked =>
      have hne : name ≠ asked := by
        rintro rfl
        exact hother rfl
      exact lookup_others hne
    | contains asked | size => rfl
    | get other | add other entry | latest other | clear other => contradiction

end

end Store

namespace Calculator

/-- The request is issued for this session. -/
def Request.isFor (name : String) (request : Request) : Bool := request.session? == some name

section

variable {calculator : Calculator} {store alone : Store} {name : String} {names : List String}

/-- With room for all sessions a session sees its own requests only. -/
theorem run_of_agree (hroom : store.HasRoom names) (halone : alone.IsUsable) (hagree : store.Agree name alone)
    {requests : List Request} (hnames : ∀ request ∈ requests, ∀ asked, request.session? = some asked → asked ∈ names) :
    ({ calculator with store }.run requests).1.filter (fun exchange => exchange.1.isFor name) =
      ({ calculator with store := alone }.run (requests.filter (·.isFor name))).1 ∧
    ({ calculator with store }.run requests).2.store.sessions.lookup name =
      ({ calculator with store := alone }.run (requests.filter (·.isFor name))).2.store.sessions.lookup name := by
  -- the stores agree on the session behind every request, and the shared one keeps its room
  induction requests generalizing store alone with
  | nil => exact ⟨rfl, hagree.lookup⟩
  | cons request rest ih =>
    obtain ⟨hrequest, hrest⟩ := List.forall_mem_cons.mp hnames
    rcases calculator.answer_cases request with ⟨reply, hsame⟩ | ⟨asked, respond, hname, hanswer⟩
    · obtain ⟨hexchanges, hlookup⟩ := ih hroom halone hagree hrest
      cases hown : request.isFor name with
      | true => simp only [run, hsame, hown, List.filter_cons_of_pos, hexchanges, hlookup, and_self]
      | false =>
        simp only [run, hsame, hown, List.filter_cons, Bool.false_eq_true, if_false, hexchanges, hlookup, and_self]
    · have hasked : ∀ other, asked.name? = some other → other ∈ names := by
        rw [hname]
        exact hrequest
      have hroom' := hroom.next hasked
      cases hown : request.isFor name with
      | true =>
        have hsession : asked.name? = some name := hname.trans (beq_iff_eq.mp hown)
        obtain ⟨-, -, halone'⟩ := Store.isUsable_answer halone asked
        have hreply := hagree.reply_eq hroom.isUsable halone hsession
        obtain ⟨hexchanges, hlookup⟩ := ih hroom' halone' (hagree.next hroom.isUsable halone hsession) hrest
        simp only [run, hanswer, hown, List.filter_cons_of_pos, hexchanges, hlookup, hreply, and_self]
      | false =>
        have hother : asked.name? ≠ some name := by
          rw [hname]
          exact fun heq => by simp [Request.isFor, heq] at hown
        obtain ⟨hentries, hsessions, -⟩ := Store.isUsable_answer hroom.isUsable asked
        have hagree' : (store.answer asked).2.Agree name alone :=
          ⟨hentries.trans hagree.maxEntries, hsessions.trans hagree.maxSessions,
            (hroom.lookup_answer hasked hother).trans hagree.lookup⟩
        obtain ⟨hexchanges, hlookup⟩ := ih hroom' halone hagree' hrest
        simp only [run, hanswer, hown, List.filter_cons, Bool.false_eq_true, if_false, hexchanges, hlookup, and_self]

/-- A calculator that nothing changes answers every request as if it were alone. -/
theorem run_of_unchanged (h : ∀ request, (calculator.answer request).2 = calculator) (requests : List Request)
    (name : String) :
    (calculator.run requests).1.filter (fun exchange => exchange.1.isFor name) =
      (calculator.run (requests.filter (·.isFor name))).1 ∧
    (calculator.run requests).2 = (calculator.run (requests.filter (·.isFor name))).2 := by
  induction requests with
  | nil => exact ⟨rfl, rfl⟩
  | cons request rest ih =>
    obtain ⟨hexchanges, hlast⟩ := ih
    cases hown : request.isFor name with
    | true => simp only [run, h, hown, List.filter_cons_of_pos, hexchanges, hlast, and_self]
    | false =>
      simp only [run, h, hown, List.filter_cons, Bool.false_eq_true, if_false, hexchanges, hlast, and_self]

/-- When a calculator with a new store is asked about no more sessions than the store may hold, the requests of each
session are answered, and leave its history, as if there were no others. -/
theorem sessions_do_not_interfere (calculator : Calculator) (maxEntries maxSessions : Int) (requests : List Request)
    (names : List String) (hnames : ∀ request ∈ requests, ∀ asked, request.session? = some asked → asked ∈ names)
    (hfits : (names.length : Int) ≤ (Store.create maxEntries maxSessions).maxSessions) (name : String) :
    ({ calculator with store := .create maxEntries maxSessions }.run requests).1.filter
        (fun exchange => exchange.1.isFor name) =
      ({ calculator with store := .create maxEntries maxSessions }.run (requests.filter (·.isFor name))).1 ∧
    ({ calculator with store := .create maxEntries maxSessions }.run requests).2.store.sessions.lookup name =
      ({ calculator with store := .create maxEntries maxSessions }.run
        (requests.filter (·.isFor name))).2.store.sessions.lookup name := by
  by_cases husable : (Store.create maxEntries maxSessions).IsUsable
  · have hroom : (Store.create maxEntries maxSessions).HasRoom names :=
      ⟨husable, List.nodup_nil, fun session hmem => absurd hmem List.not_mem_nil, hfits⟩
    exact run_of_agree hroom husable ⟨rfl, rfl, rfl⟩ hnames
  · obtain ⟨hentries, hsessions⟩ := create_bounds_ne maxEntries maxSessions
    have hunchanged : ∀ request,
        ({ calculator with store := .create maxEntries maxSessions }.answer request).2 =
          { calculator with store := .create maxEntries maxSessions } := by
      intro request
      rcases calculator.answer_cases request with ⟨reply, hsame⟩ | ⟨asked, respond, -, hanswer⟩
      · rw [hsame]
      · rw [hanswer, (Store.answer_of_unusable husable rfl hentries hsessions asked).1]
    obtain ⟨hexchanges, hlast⟩ := run_of_unchanged hunchanged requests name
    exact ⟨hexchanges, by rw [hlast]⟩

/-- Two sessions take turns, and one of them is dropped. -/
def turns : List Request := [.store (.add "a" ⟨.text "1", "1"⟩), .calculate (.text "2") .absent (some "b"),
  .store (.drop "a"), .calculate (.text "3") .absent none, .store (.get "b")]

theorem sessions_do_not_interfere_of_turns :
    (∀ request ∈ turns, ∀ asked, request.session? = some asked → asked ∈ ["a", "b"]) ∧
    ((["a", "b"].length : Nat) : Int) ≤ (Store.create 1 2).maxSessions ∧
    ((Calculator.mk .radians 12 1000 (.create 1 2)).run turns).1.filter (fun exchange => exchange.1.isFor "b") =
      ((Calculator.mk .radians 12 1000 (.create 1 2)).run
        [.calculate (.text "2") .absent (some "b"), .store (.get "b")]).1 := by
  have hnames : ∀ request ∈ turns, ∀ asked, request.session? = some asked → asked ∈ ["a", "b"] := by
    simp [turns, Request.session?, Store.Request.name?]
  have hfits : ((["a", "b"].length : Nat) : Int) ≤ (Store.create 1 2).maxSessions := by decide
  have hboth := sessions_do_not_interfere ⟨.radians, 12, 1000, .create 1 2⟩ 1 2 turns ["a", "b"] hnames hfits "b"
  exact ⟨hnames, hfits, hboth.1⟩

end

end Calculator

end SciCalc
