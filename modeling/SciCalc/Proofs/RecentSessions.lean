import SciCalc.History.Request

/-!
# Recent sessions

What a store shows behind a log of requests, told by the log alone: the sessions that were asked for last are live, and
each holds the last entries that were added to it. Logs are given latest first.
-/

namespace SciCalc.Store

/-- The session whose history is asked for, which becomes the most recent one. -/
def Request.session? : Request → Option String
  | get name | add name _ | latest name | clear name => some name
  | drop _ | contains _ | size => none

/-- What a request makes of the history of its session. -/
def Request.change : Request → History → History
  | add _ entry, history => history.add entry
  | clear _, history => history.clear
  | get _, history | latest _, history | drop _, history | contains _, history | size, history => history

/-- The store behind a log. -/
def after (store : Store) : List Request → Store
  | [] => store
  | request :: earlier => ((store.after earlier).answer request).2

/-- The number of requests since a session was asked for last. -/
def idle (name : String) (log : List Request) : Nat :=
  (log.takeWhile fun request => request.session? != some name).length

/-- The entries that were added to a session since it was created or cleared last, the latest first. -/
def added (start : Store) (name : String) : List Request → List Entry
  | [] => []
  | request :: earlier =>
    if request.session? = some name then
      let kept := if name ∈ (start.after earlier).names then added start name earlier else []
      match request with
      | .add _ entry => entry :: kept
      | .clear _ => []
      | .get _ | .latest _ | .drop _ | .contains _ | .size => kept
    else added start name earlier

/-- A request for a new session takes the place of this one: the store is full, and no other session of it was
idle for longer. -/
structure GivesWay (store : Store) (log : List Request) (request : Request) (name : String) : Prop where
  fresh : ∃ new, request.session? = some new ∧ new ∉ store.names
  full : (store.names.length : Int) = store.maxSessions
  oldest : ∀ other ∈ store.names, idle other log ≤ idle name log

section

variable {store : Store} {name : String}

theorem mem_names : name ∈ store.names ↔ ∃ history, (name, history) ∈ store.sessions := by
  simp [names]

theorem contains_eq : store.contains name = decide (name ∈ store.names) := by
  rw [Bool.eq_iff_iff, decide_eq_true_iff, mem_names, contains, List.any_eq_true]
  constructor
  · rintro ⟨⟨other, history⟩, hmem, heq⟩
    obtain rfl : other = name := beq_iff_eq.mp heq
    exact ⟨history, hmem⟩
  · rintro ⟨history, hmem⟩
    exact ⟨(name, history), hmem, beq_self_eq_true name⟩

theorem mem_of_lookup {history : History} (h : store.sessions.lookup name = some history) :
    (name, history) ∈ store.sessions := by
  obtain ⟨before, behind, hsplit, -⟩ := List.lookup_eq_some_iff.mp h
  rw [hsplit]
  simp

theorem lookup_eq_none (h : name ∉ store.names) : store.sessions.lookup name = none := by
  cases hlookup : store.sessions.lookup name with
  | none => rfl
  | some history => exact absurd (mem_names.mpr ⟨history, mem_of_lookup hlookup⟩) h

theorem exists_lookup (h : name ∈ store.names) : ∃ history, store.sessions.lookup name = some history := by
  cases hlookup : store.sessions.lookup name with
  | some history => exact ⟨history, rfl⟩
  | none =>
    obtain ⟨history, hmem⟩ := mem_names.mp h
    have hne := List.lookup_eq_none_iff.mp hlookup (name, history) hmem
    simp at hne

theorem isSome_lookup : (store.sessions.lookup name).isSome = decide (name ∈ store.names) := by
  by_cases h : name ∈ store.names
  · obtain ⟨history, hlookup⟩ := exists_lookup h
    simp [hlookup, h]
  · simp [lookup_eq_none h, h]

end

/-- The history that a session is given when it is asked for. -/
def held (store : Store) (name : String) : History :=
  (store.sessions.lookup name).getD ⟨store.maxEntries.toNat, []⟩

theorem held_front (store : Store) (name : String) (history : History) (sessions : List (String × History)) :
    { store with sessions := (name, history) :: sessions : Store }.held name = history := by
  rw [held, List.lookup_cons_self, Option.getD_some]

/-- The sessions that stay behind the one that is asked for. -/
def kept (store : Store) (name : String) : List (String × History) :=
  if name ∈ store.names then store.others name else store.sessions.take (store.maxSessions.toNat - 1)

/-- The bounds are such that every session can be created. -/
structure IsUsable (store : Store) : Prop where
  entries : 1 ≤ store.maxEntries
  word : store.maxEntries ≤ History.greatestWord
  sessions : 1 ≤ store.maxSessions

theorem orStandard_of_pos {given standard : Int} (h : 1 ≤ given) : Settings.orStandard given standard = given :=
  if_neg (by omega)

theorem create_history {maxEntries : Int} (h : 1 ≤ maxEntries) (hword : maxEntries ≤ History.greatestWord) :
    History.create maxEntries = .ok ⟨maxEntries.toNat, []⟩ := by
  have hfits : (maxEntries < -History.greatestWord - 1 || History.greatestWord < maxEntries) = false := by
    rw [Bool.or_eq_false_iff, decide_eq_false_iff_not, decide_eq_false_iff_not]
    simp only [History.greatestWord] at hword ⊢
    omega
  have hpos : ¬maxEntries < 0 := by omega
  simp only [History.create, orStandard_of_pos h, hfits, Bool.false_eq_true, if_false, hpos]

section

variable {store : Store} {name : String}

theorem get_eq (h : store.IsUsable) (name : String) : store.get name =
    (.ok (store.held name), { store with sessions := (name, store.held name) :: store.kept name }) := by
  by_cases hlive : name ∈ store.names
  · obtain ⟨history, hlookup⟩ := exists_lookup hlive
    simp only [get, held, kept, hlookup, if_pos hlive, Option.getD_some]
  · have hlookup := lookup_eq_none hlive
    have hpos : ¬store.maxSessions < 0 := by
      have := h.sessions
      omega
    obtain ⟨places, hplaces⟩ : ∃ places, store.maxSessions.toNat = places + 1 := by
      have := h.sessions
      exact ⟨store.maxSessions.toNat - 1, by omega⟩
    simp only [get, held, kept, hlookup, if_neg hlive, create_history h.entries h.word, if_neg hpos, hplaces,
      List.take_succ_cons, Option.getD_none, Nat.add_sub_cancel]

theorem kept_sublist (store : Store) (name : String) : (store.kept name).Sublist store.sessions := by
  unfold kept
  split
  · exact List.filter_sublist
  · exact List.take_sublist _ _

theorem ne_of_mem_kept {session : String × History} (h : session ∈ store.kept name) : session.1 ≠ name := by
  unfold kept at h
  split at h
  · have hne := (List.mem_filter.mp h).2
    simpa using hne
  · rename_i hlive
    rintro rfl
    exact hlive (mem_names.mpr ⟨session.2, List.mem_of_mem_take h⟩)

theorem update_eq (h : store.IsUsable) (name : String) (change : History → History) :
    store.update name change = (.ok (change (store.held name)),
      { store with sessions := (name, change (store.held name)) :: store.kept name }) := by
  have hkept : (store.kept name).map (fun session =>
      (session.1, if session.1 = name then change (store.held name) else session.2)) = store.kept name := by
    refine (List.map_congr_left fun session hsession => ?_).trans (List.map_id _)
    exact congrArg (Prod.mk session.1) (if_neg (ne_of_mem_kept hsession))
  simp only [update, get_eq h, List.map_cons, if_true, hkept]

/-- A request about a session changes the history of that session only and keeps the others in their order. -/
theorem answer_of_session (h : store.IsUsable) {request : Request} (hsession : request.session? = some name) :
    (∃ reply, (store.answer request).1 = .ok reply) ∧ (store.answer request).2 =
      { store with sessions := (name, request.change (store.held name)) :: store.kept name } := by
  cases request with
  | get session =>
    cases hsession
    simp only [answer, get_eq h]
    exact ⟨⟨_, rfl⟩, rfl⟩
  | add session entry =>
    cases hsession
    simp only [answer, add, update_eq h]
    exact ⟨⟨_, rfl⟩, rfl⟩
  | latest session =>
    cases hsession
    simp only [answer, get_eq h]
    exact ⟨⟨_, rfl⟩, rfl⟩
  | clear session =>
    cases hsession
    simp only [answer, clear, update_eq h]
    exact ⟨⟨_, rfl⟩, rfl⟩
  | drop session | contains session | size => contradiction

theorem length_kept (h : store.IsUsable) (name : String) (hbound : (store.sessions.length : Int) ≤ store.maxSessions) :
    ((store.kept name).length + 1 : Int) ≤ store.maxSessions := by
  have hpos := h.sessions
  unfold kept
  split
  · rename_i hlive
    obtain ⟨history, hmem⟩ := mem_names.mp hlive
    have hfewer : (store.others name).length < store.sessions.length :=
      List.length_filter_lt_length_iff_exists.mpr ⟨(name, history), hmem, by simp⟩
    omega
  · have htake : (store.sessions.take (store.maxSessions.toNat - 1)).length ≤ store.maxSessions.toNat - 1 :=
      List.length_take_le _ _
    omega

end

/-! ### Idleness -/

theorem idle_self {request : Request} {name : String} (h : request.session? = some name) (log : List Request) :
    idle name (request :: log) = 0 := by
  simp [idle, h]

theorem idle_other {request : Request} {name : String} (h : request.session? ≠ some name) (log : List Request) :
    idle name (request :: log) = idle name log + 1 := by
  simp [idle, h]

theorem added_other {request : Request} {name : String} (h : request.session? ≠ some name) (start : Store)
    (log : List Request) : added start name (request :: log) = added start name log := by
  rw [added, if_neg h]

/-- The state of a store behind a log, told by the log. -/
structure Tells (start : Store) (log : List Request) : Prop where
  maxEntries : (start.after log).maxEntries = start.maxEntries
  maxSessions : (start.after log).maxSessions = start.maxSessions
  ordered : (start.after log).sessions.Pairwise fun recent older => idle recent.1 log < idle older.1 log
  bounded : ((start.after log).sessions.length : Int) ≤ start.maxSessions
  entries : ∀ session ∈ (start.after log).sessions, session.2 =
    ⟨start.maxEntries.toNat, (added start session.1 log).take start.maxEntries.toNat⟩

section

variable {start : Store} {log : List Request}

theorem Tells.isUsable (h : Tells start log) (hstart : start.IsUsable) : (start.after log).IsUsable where
  entries := by
    rw [h.maxEntries]
    exact hstart.entries
  word := by
    rw [h.maxEntries]
    exact hstart.word
  sessions := by
    rw [h.maxSessions]
    exact hstart.sessions

theorem Tells.ordered_names (h : Tells start log) :
    (start.after log).names.Pairwise fun older recent => idle recent log < idle older log :=
  List.pairwise_reverse.mpr (List.pairwise_map.mpr h.ordered)

theorem Tells.nodup_names (h : Tells start log) : (start.after log).names.Nodup := by
  refine h.ordered_names.imp fun hless heq => ?_
  rw [heq] at hless
  omega

/-- A session that is asked for holds its last entries if it is live, and none if it is not. -/
theorem Tells.held_eq (h : Tells start log) (name : String) : (start.after log).held name =
    ⟨start.maxEntries.toNat, (if name ∈ (start.after log).names then added start name log else []).take
      start.maxEntries.toNat⟩ := by
  by_cases hlive : name ∈ (start.after log).names
  · obtain ⟨history, hlookup⟩ := exists_lookup hlive
    rw [held, hlookup, Option.getD_some, if_pos hlive]
    exact h.entries (name, history) (mem_of_lookup hlookup)
  · rw [held, lookup_eq_none hlive, Option.getD_none, if_neg hlive, h.maxEntries, List.take_nil]

/-- Taking the entries before a new one is put in front or after it comes to the same. -/
theorem take_cons_take (entry : Entry) (entries : List Entry) (count : Nat) :
    (entry :: entries.take count).take count = (entry :: entries).take count := by
  cases count with
  | zero => rfl
  | succ count =>
    rw [List.take_succ_cons, List.take_succ_cons, List.take_take, Nat.min_eq_left (Nat.le_succ count)]

theorem Tells.change_held (h : Tells start log) {request : Request} {name : String}
    (hsession : request.session? = some name) : request.change ((start.after log).held name) =
      ⟨start.maxEntries.toNat, (added start name (request :: log)).take start.maxEntries.toNat⟩ := by
  rw [h.held_eq, added, if_pos hsession]
  cases request with
  | add session entry =>
    simp only [Request.change, History.add, take_cons_take]
  | clear session => simp only [Request.change, History.clear, List.take_nil]
  | get session | latest session => rfl
  | drop session | contains session | size => contradiction

/-- Entries and order of the other sessions are told by the longer log as by the shorter one. -/
theorem Tells.others (h : Tells start log) {request : Request} {sessions : List (String × History)}
    (hsub : sessions.Sublist (start.after log).sessions)
    (hother : ∀ session ∈ sessions, request.session? ≠ some session.1) :
    (sessions.Pairwise fun recent older => idle recent.1 (request :: log) < idle older.1 (request :: log)) ∧
    ∀ session ∈ sessions, session.2 =
      ⟨start.maxEntries.toNat, (added start session.1 (request :: log)).take start.maxEntries.toNat⟩ := by
  constructor
  · refine (h.ordered.sublist hsub).imp_of_mem fun hrecent holder hless => ?_
    rw [idle_other (hother _ hrecent), idle_other (hother _ holder)]
    omega
  · intro session hmem
    rw [added_other (hother session hmem)]
    exact h.entries session (hsub.mem hmem)

theorem Tells.next_of_session (h : Tells start log) (hstart : start.IsUsable) {request : Request} {name : String}
    (hsession : request.session? = some name) : Tells start (request :: log) := by
  have husable := h.isUsable hstart
  obtain ⟨-, hanswer⟩ := answer_of_session husable hsession
  have hbound : ((start.after log).sessions.length : Int) ≤ (start.after log).maxSessions := by
    rw [h.maxSessions]
    exact h.bounded
  have hother : ∀ session ∈ (start.after log).kept name, request.session? ≠ some session.1 := by
    intro session hmem heq
    exact ne_of_mem_kept hmem (Option.some.inj (heq.symm.trans hsession))
  obtain ⟨hordered, hentries⟩ := h.others (kept_sublist _ name) hother
  have hlength := length_kept husable name hbound
  rw [h.maxSessions] at hlength
  constructor <;> rw [after, hanswer]
  · exact h.maxEntries
  · exact h.maxSessions
  · refine List.pairwise_cons.mpr ⟨fun session hmem => ?_, hordered⟩
    rw [idle_self hsession, idle_other (hother session hmem)]
    omega
  · rw [List.length_cons]
    omega
  · refine List.forall_mem_cons.mpr ⟨h.change_held hsession, hentries⟩

theorem sessions_of_look (store : Store) {request : Request} (h : request.session? = none) :
    (store.answer request).2.maxEntries = store.maxEntries ∧
    (store.answer request).2.maxSessions = store.maxSessions ∧
    (store.answer request).2.sessions.Sublist store.sessions := by
  cases request with
  | drop name => exact ⟨rfl, rfl, List.filter_sublist⟩
  | contains name => exact ⟨rfl, rfl, List.Sublist.refl _⟩
  | size => exact ⟨rfl, rfl, List.Sublist.refl _⟩
  | get name | add name entry | latest name | clear name => contradiction

theorem Tells.next_of_look (h : Tells start log) {request : Request} (hlook : request.session? = none) :
    Tells start (request :: log) := by
  obtain ⟨hentries, hsessions, hsub⟩ := sessions_of_look (start.after log) hlook
  have hother : ∀ session ∈ ((start.after log).answer request).2.sessions, request.session? ≠ some session.1 := by
    intro session _ heq
    rw [hlook] at heq
    contradiction
  obtain ⟨hordered, htold⟩ := h.others hsub hother
  have hlength := hsub.length_le
  have hbound := h.bounded
  constructor <;> rw [after]
  · rw [hentries, h.maxEntries]
  · rw [hsessions, h.maxSessions]
  · exact hordered
  · omega
  · exact htold

theorem tells (hstart : start.IsUsable) (hempty : start.sessions = []) (log : List Request) : Tells start log := by
  -- the log is latest first, so its induction adds a later request
  induction log with
  | nil =>
    have hpos := hstart.sessions
    constructor <;> simp only [after, hempty]
    · exact List.Pairwise.nil
    · simp
      omega
    · simp
  | cons request earlier ih =>
    cases hsession : request.session? with
    | some name => exact ih.next_of_session hstart hsession
    | none => exact ih.next_of_look hsession

end

/-! ### Sessions that give way -/

/-- Of a list without repetitions only the last element is lost when the list is cut by one. -/
theorem not_mem_take_iff {α : Type} {l : List α} {n : Nat} (h : l.Nodup) (hlength : l.length ≤ n + 1) {x : α}
    (hx : x ∈ l) : x ∉ l.take n ↔ l.length = n + 1 ∧ l.getLast? = some x := by
  by_cases hfull : l.length = n + 1
  · have hne := List.ne_nil_of_mem hx
    obtain ⟨front, last, rfl⟩ : ∃ front last, l = front ++ [last] :=
      ⟨l.dropLast, l.getLast hne, (List.dropLast_concat_getLast hne).symm⟩
    have hfront : front.length = n := by simpa using hfull
    have htake : (front ++ [last]).take n = front := by
      rw [← hfront, List.take_left]
    have hlast : last ∉ front := by
      intro hmem
      exact (List.nodup_append.mp h).2.2 last hmem last (List.mem_singleton_self last) rfl
    rw [htake, and_iff_right hfull, List.getLast?_concat, Option.some.injEq]
    constructor
    · intro hnot
      have hmem := (List.mem_append.mp hx).resolve_left hnot
      exact (List.mem_singleton.mp hmem).symm
    · rintro rfl
      exact hlast
  · rw [List.take_of_length_le (by omega)]
    exact ⟨fun hnot => absurd hx hnot, fun hboth => absurd hboth.1 hfull⟩

theorem getLast?_eq_some_iff {α : Type} {f : α → Nat} {l : List α} (h : l.Pairwise fun a b => f a < f b) {x : α}
    (hx : x ∈ l) : l.getLast? = some x ↔ ∀ y ∈ l, f y ≤ f x := by
  have hne := List.ne_nil_of_mem hx
  obtain ⟨front, last, rfl⟩ : ∃ front last, l = front ++ [last] :=
    ⟨l.dropLast, l.getLast hne, (List.dropLast_concat_getLast hne).symm⟩
  have hless : ∀ y ∈ front, f y < f last := fun y hy =>
    (List.pairwise_append.mp h).2.2 y hy last (List.mem_singleton_self last)
  rw [List.getLast?_concat, Option.some.injEq]
  constructor
  · rintro rfl y hy
    rcases List.mem_append.mp hy with hy | hy
    · exact Nat.le_of_lt (hless y hy)
    · exact Nat.le_of_eq (congrArg f (List.mem_singleton.mp hy))
  · intro hall
    rcases List.mem_append.mp hx with hmem | hmem
    · have hlast := hall last (by simp)
      have := hless x hmem
      omega
    · exact (List.mem_singleton.mp hmem).symm

/-- In a list in strict order all but the last of the elements stay when the list is cut to its length less one. -/
theorem mem_take_iff {α : Type} {f : α → Nat} {l : List α} {n : Nat} (h : l.Pairwise fun a b => f a < f b)
    (hlength : l.length ≤ n + 1) {x : α} (hx : x ∈ l) :
    x ∈ l.take n ↔ ¬(l.length = n + 1 ∧ ∀ y ∈ l, f y ≤ f x) := by
  have hnodup : l.Nodup := by
    refine h.imp fun hless heq => ?_
    rw [heq] at hless
    omega
  rw [← getLast?_eq_some_iff h hx, ← not_mem_take_iff hnodup hlength hx, Classical.not_not]

section

variable {start : Store} {log : List Request}

theorem length_names (store : Store) : store.names.length = store.sessions.length := by
  simp [names]

theorem mem_others {store : Store} {asked name : String} :
    (∃ history, (name, history) ∈ store.others asked) ↔ name ≠ asked ∧ name ∈ store.names := by
  rw [mem_names]
  constructor
  · rintro ⟨history, hmem⟩
    obtain ⟨hmem, hne⟩ := List.mem_filter.mp hmem
    exact ⟨by simpa using hne, history, hmem⟩
  · rintro ⟨hne, history, hmem⟩
    exact ⟨history, List.mem_filter.mpr ⟨hmem, by simpa using hne⟩⟩

/-- When a session that is not live is asked for, the others stay but for the one that gives way. -/
theorem Tells.mem_names_kept (h : Tells start log) (hstart : start.IsUsable) {request : Request}
    {asked name : String} (hasked : request.session? = some asked) (hlive : asked ∉ (start.after log).names) :
    (∃ history, (name, history) ∈ (start.after log).kept asked) ↔
      name ∈ (start.after log).names ∧ ¬GivesWay (start.after log) log request name := by
  have hpos := hstart.sessions
  have hbound := h.bounded
  obtain ⟨places, hplaces⟩ : ∃ places, (start.after log).maxSessions.toNat = places + 1 := by
    rw [h.maxSessions]
    exact ⟨start.maxSessions.toNat - 1, by omega⟩
  have hmax := h.maxSessions
  have hlength := length_names (start.after log)
  rw [kept, if_neg hlive, hplaces, Nat.add_sub_cancel, mem_names]
  have hstays (history : History) (hmem : (name, history) ∈ (start.after log).sessions) :=
    mem_take_iff h.ordered (n := places) (by omega) hmem
  have hgives (history : History) (hmem : (name, history) ∈ (start.after log).sessions) :
      ((start.after log).sessions.length = places + 1 ∧
        ∀ session ∈ (start.after log).sessions, idle session.1 log ≤ idle name log) ↔
      GivesWay (start.after log) log request name := by
    constructor
    · rintro ⟨hfull, hall⟩
      refine ⟨⟨asked, hasked, hlive⟩, by omega, fun other hother => ?_⟩
      obtain ⟨history, hmem⟩ := mem_names.mp hother
      exact hall (other, history) hmem
    · rintro ⟨-, hfull, hall⟩
      exact ⟨by omega, fun session hmem => hall session.1 (mem_names.mpr ⟨session.2, hmem⟩)⟩
  constructor
  · rintro ⟨history, hmem⟩
    have hlisted := List.mem_of_mem_take hmem
    refine ⟨⟨history, hlisted⟩, fun hway => ?_⟩
    exact (hstays history hlisted).mp hmem ((hgives history hlisted).mpr hway)
  · rintro ⟨⟨history, hmem⟩, hway⟩
    exact ⟨history, (hstays history hmem).mpr fun hboth => hway ((hgives history hmem).mp hboth)⟩

/-- The sessions that are live behind one more request. -/
theorem Tells.mem_names_answer (h : Tells start log) (hstart : start.IsUsable) (request : Request) (name : String) :
    name ∈ ((start.after log).answer request).2.names ↔ request.session? = some name ∨
      (name ∈ (start.after log).names ∧ request ≠ .drop name ∧ ¬GivesWay (start.after log) log request name) := by
  cases hsession : request.session? with
  | some asked =>
    obtain ⟨-, hanswer⟩ := answer_of_session (h.isUsable hstart) hsession
    have hdrop : request ≠ .drop name := by
      rintro rfl
      contradiction
    have hsplit : name ∈ ((start.after log).answer request).2.names ↔
        name = asked ∨ ∃ history, (name, history) ∈ (start.after log).kept asked := by
      rw [hanswer, mem_names]
      simp only [List.mem_cons, Prod.mk.injEq, exists_or, exists_and_left, exists_eq, and_true]
    rw [hsplit]
    by_cases heq : name = asked
    · exact ⟨fun _ => Or.inl (congrArg some heq.symm), fun _ => Or.inl heq⟩
    have hne : ¬some asked = some name := fun h => heq (Option.some.inj h).symm
    rw [or_iff_right heq, or_iff_right hne]
    by_cases hlive : asked ∈ (start.after log).names
    · have hway : ¬GivesWay (start.after log) log request name := by
        rintro ⟨⟨new, hnew, hdead⟩, -, -⟩
        rw [hsession, Option.some.injEq] at hnew
        exact hdead (hnew ▸ hlive)
      rw [kept, if_pos hlive, mem_others]
      exact ⟨fun hmem => ⟨hmem.2, hdrop, hway⟩, fun hmem => ⟨heq, hmem.1⟩⟩
    · rw [h.mem_names_kept hstart hsession hlive]
      exact ⟨fun hmem => ⟨hmem.1, hdrop, hmem.2⟩, fun hmem => ⟨hmem.1, hmem.2.2⟩⟩
  | none =>
    have hway : ¬GivesWay (start.after log) log request name := by
      rintro ⟨⟨new, hnew, -⟩, -, -⟩
      rw [hsession] at hnew
      contradiction
    cases request with
    | drop session =>
      have hmem : name ∈ ((start.after log).drop session).names ↔ name ≠ session ∧ name ∈ (start.after log).names :=
        mem_names.trans mem_others
      rw [answer, hmem]
      constructor
      · rintro ⟨hne, hlive⟩
        exact Or.inr ⟨hlive, fun heq => hne (by cases heq; rfl), hway⟩
      · rintro (hfalse | ⟨hlive, hdrop, -⟩)
        · contradiction
        · exact ⟨fun heq => hdrop (heq ▸ rfl), hlive⟩
    | contains session | size => simp [answer, hway]
    | get session | add session entry | latest session | clear session => contradiction

end

/-! ### What a store shows -/

/-- What the answers of a store show behind a log. -/
structure ShowsRecent (start : Store) (log : List Request) : Prop where
  distinct : (start.after log).names.Nodup
  /-- The sessions are listed by their last requests, the least recent first. -/
  ordered : (start.after log).names.Pairwise fun older recent => idle recent log < idle older log
  bounded : ((start.after log).names.length : Int) ≤ start.maxSessions
  /-- A session that is asked for is live behind that, and a live one stays so unless it is dropped or gives way. -/
  next : ∀ request name, name ∈ ((start.after log).answer request).2.names ↔
    (request.session? = some name ∧ ∃ reply, ((start.after log).answer request).1 = .ok reply) ∨
    (name ∈ (start.after log).names ∧ request ≠ .drop name ∧ ¬GivesWay (start.after log) log request name)
  dropped : ∀ name, ((start.after log).answer (.drop name)).1 = .ok (.truth (name ∈ (start.after log).names))
  contained : ∀ name, ((start.after log).answer (.contains name)).1 = .ok (.truth (name ∈ (start.after log).names))
  counted : ((start.after log).answer .size).1 = .ok (.count (start.after log).names.length)
  /-- A live session has the last entries that were added to it, any other one comes back empty. -/
  entries : ∀ name history, ((start.after log).answer (.get name)).1 = .ok (.history history) →
    history.entries = (if name ∈ (start.after log).names then added start name log else []).take
      start.maxEntries.toNat
  /-- Only a history that is too big for the machine cannot be created. -/
  answered : start.maxEntries ≤ History.greatestWord → ∀ request, ∃ reply,
    ((start.after log).answer request).1 = .ok reply

section

variable {start : Store}

theorem dropped_eq (store : Store) (name : String) :
    (store.answer (.drop name)).1 = .ok (.truth (name ∈ store.names)) := by
  rw [answer, isSome_lookup]

theorem contained_eq (store : Store) (name : String) :
    (store.answer (.contains name)).1 = .ok (.truth (name ∈ store.names)) := by
  rw [answer, contains_eq]

theorem counted_eq (store : Store) : (store.answer .size).1 = .ok (.count store.names.length) := by
  rw [answer, size, length_names]

theorem exists_reply {store : Store} (h : store.IsUsable) (request : Request) :
    ∃ reply, (store.answer request).1 = .ok reply := by
  cases hsession : request.session? with
  | some name => exact (answer_of_session h hsession).1
  | none =>
    cases request with
    | drop name => exact ⟨_, rfl⟩
    | contains name => exact ⟨_, rfl⟩
    | size => exact ⟨_, rfl⟩
    | get name | add name entry | latest name | clear name => contradiction

theorem showsRecent_of_tells {log : List Request} (hstart : start.IsUsable) (h : Tells start log) :
    ShowsRecent start log := by
  have husable := h.isUsable hstart
  refine ⟨h.nodup_names, h.ordered_names, ?_, ?_, dropped_eq _, contained_eq _, counted_eq _, ?_,
    fun _ => exists_reply husable⟩
  · rw [length_names]
    exact h.bounded
  · intro request name
    rw [h.mem_names_answer hstart, and_iff_left (exists_reply husable request)]
  · intro name history hanswer
    rw [answer, get_eq husable] at hanswer
    cases hanswer
    rw [h.held_eq]

/-- An empty store whose bounds are of no use stays empty. -/
theorem get_of_unusable (hunusable : ¬start.IsUsable) (hempty : start.sessions = [])
    (hentries : start.maxEntries ≠ 0) (hsessions : start.maxSessions ≠ 0) (name : String) :
    ∃ failure, start.get name = (.error failure, start) := by
  obtain ⟨maxEntries, maxSessions, sessions⟩ := start
  obtain rfl : sessions = [] := hempty
  have horStandard : Settings.orStandard maxEntries Settings.standard.maxEntries = maxEntries := if_neg hentries
  simp only [get, List.lookup_nil]
  cases hcreate : History.create maxEntries with
  | error failure => exact ⟨failure, rfl⟩
  | ok history =>
    have hfine : 1 ≤ maxEntries ∧ maxEntries ≤ History.greatestWord := by
      simp only [History.create, horStandard, Bool.or_eq_true, decide_eq_true_eq] at hcreate
      split at hcreate
      · contradiction
      · split at hcreate
        · contradiction
        · simp only [ne_eq] at hentries
          omega
    have hnegative : maxSessions < 0 := by
      have hbelow : ¬1 ≤ maxSessions := fun hbound => hunusable ⟨hfine.1, hfine.2, hbound⟩
      simp only [ne_eq] at hsessions
      omega
    exact ⟨.emptyStore, by simp only [if_pos hnegative]⟩

theorem answer_of_unusable (hunusable : ¬start.IsUsable) (hempty : start.sessions = [])
    (hentries : start.maxEntries ≠ 0) (hsessions : start.maxSessions ≠ 0) (request : Request) :
    (start.answer request).2 = start ∧
    (request.session? ≠ none → ∃ failure, (start.answer request).1 = .error failure) := by
  have hget := get_of_unusable hunusable hempty hentries hsessions
  cases request with
  | get name | add name entry | latest name | clear name =>
    obtain ⟨failure, hfailure⟩ := hget name
    simp only [answer, add, clear, update, hfailure]
    exact ⟨trivial, fun _ => ⟨failure, rfl⟩⟩
  | drop name =>
    have hothers : start.others name = start.sessions := by
      rw [others, hempty, List.filter_nil]
    exact ⟨by rw [answer, drop, hothers], fun h => absurd rfl h⟩
  | contains name | size => exact ⟨rfl, fun h => absurd rfl h⟩

theorem after_of_unusable (hunusable : ¬start.IsUsable) (hempty : start.sessions = [])
    (hentries : start.maxEntries ≠ 0) (hsessions : start.maxSessions ≠ 0) (log : List Request) :
    start.after log = start := by
  induction log with
  | nil => rfl
  | cons request earlier ih =>
    rw [after, ih, (answer_of_unusable hunusable hempty hentries hsessions request).1]

theorem showsRecent_of_too_big (hempty : start.sessions = []) (hpos : 1 ≤ start.maxEntries)
    (hbound : 1 ≤ start.maxSessions) (hword : History.greatestWord < start.maxEntries) (log : List Request) :
    ShowsRecent start log := by
  have hunusable : ¬start.IsUsable := fun h => absurd h.word (Int.not_le.mpr hword)
  have hanswer := answer_of_unusable hunusable hempty (by omega) (by omega)
  have hafter := after_of_unusable hunusable hempty (by omega) (by omega) log
  have hnames : (start.after log).names = [] := by
    rw [hafter, names, hempty]
    rfl
  have hfails (request : Request) (h : request.session? ≠ none) :
      ∃ failure, ((start.after log).answer request).1 = .error failure := by
    rw [hafter]
    exact (hanswer request).2 h
  refine ⟨?_, ?_, ?_, ?_, dropped_eq _, contained_eq _, counted_eq _, ?_, fun h => by omega⟩
  · rw [hnames]
    exact List.nodup_nil
  · rw [hnames]
    exact List.Pairwise.nil
  · rw [hnames, List.length_nil]
    omega
  · intro request name
    have hnone : ((start.after log).answer request).2.names = [] := by
      rw [hafter, (hanswer request).1, ← hafter, hnames]
    rw [hnone, hnames]
    constructor
    · intro h
      contradiction
    · rintro (⟨hsession, reply, hreply⟩ | ⟨hmem, -⟩)
      · obtain ⟨failure, hfailure⟩ := hfails request (by simp [hsession])
        rw [hfailure] at hreply
        contradiction
      · contradiction
  · intro name history hget
    obtain ⟨failure, hfailure⟩ := hfails (.get name) (by simp [Request.session?])
    rw [hfailure] at hget
    contradiction

/-- Behind every log of requests a new store shows the sessions that were asked for last, and in each the entries
that were added to it last. -/
theorem shows_recent_sessions (maxEntries maxSessions : Int) (hentries : 1 ≤ maxEntries)
    (hsessions : 1 ≤ maxSessions) (log : List Request) :
    ShowsRecent (Store.create maxEntries maxSessions) log := by
  have hcreate : Store.create maxEntries maxSessions = ⟨maxEntries, maxSessions, []⟩ := by
    rw [Store.create, orStandard_of_pos hentries, orStandard_of_pos hsessions]
  rw [hcreate]
  by_cases hword : maxEntries ≤ History.greatestWord
  · have husable : IsUsable ⟨maxEntries, maxSessions, []⟩ := ⟨hentries, hword, hsessions⟩
    exact showsRecent_of_tells husable (tells husable rfl log)
  · exact showsRecent_of_too_big rfl hentries hsessions (Int.not_le.mp hword) log

/-- Of three sessions in a store for two the one that was idle for longest is gone, though it was not the first. -/
theorem shows_recent_sessions_of_three :
    (1 : Int) ≤ 2 ∧
    ShowsRecent (Store.create 2 2)
      [.add "c" ⟨.text "3", "3"⟩, .get "a", .add "b" ⟨.text "2", "2"⟩, .add "a" ⟨.text "1", "1"⟩] ∧
    ((Store.create 2 2).after
      [.add "c" ⟨.text "3", "3"⟩, .get "a", .add "b" ⟨.text "2", "2"⟩, .add "a" ⟨.text "1", "1"⟩]).names =
        ["a", "c"] := by
  have hbound : (1 : Int) ≤ 2 := by decide
  exact ⟨hbound, shows_recent_sessions 2 2 hbound hbound _, by decide⟩

end

end SciCalc.Store
