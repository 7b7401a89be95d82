import Mathlib.Data.List.Induction
import RequestGuard.Admission.Controller

/-!
# The journal of a controller

What happened at a controller, note by note: how each request was answered, and when the renewals
of the clients started, emptied a quota and stopped. Only the notes about a client say what the
client has spent since its last renewal.

A journal is limited if each answer in it is the one that the quota of its client permits. Then no
stretch of it allows a client more than one quota for each renewal in it and one more.
-/

namespace RequestGuard

/-- What a note reports. -/
inductive Report where
  | answered (a : Admission)
  | started
  | renewed
  | stopped
deriving DecidableEq

def Report.answer? : Report → Option Admission
  | .answered a => some a
  | .started | .renewed | .stopped => none

/-- A note about a client. -/
structure Note where
  time : Nat
  key : String
  report : Report
deriving DecidableEq

namespace Journal

/-- The notes about one client. -/
def own (key : String) (log : List Note) : List Note := log.filter fun n => n.key = key

/-- When something was reported of a client. -/
def times (key : String) (report : Report) (log : List Note) : List Nat :=
  ((own key log).filter fun n => n.report = report).map Note.time

/-- The answers in a journal, in their order. -/
def answers (log : List Note) : List Admission := log.filterMap fun n => n.report.answer?

/-- How many requests of a client were allowed since its last renewal. -/
def spent (key : String) (log : List Note) : Nat :=
  ((own key log).reverse.takeWhile fun n => n.report ≠ .renewed).countP
    fun n => n.report = .answered .allowed

/-- What a client has spent once something is reported of it. -/
def spends (n : Nat) : Report → Nat
  | .renewed => 0
  | .answered .allowed => n + 1
  | .answered .denied | .started | .stopped => n

/-- Every request is allowed or denied as the quota of its client permits. -/
def Limited (capacity : Nat) (log : List Note) : Prop :=
  ∀ before note after a, log = before ++ note :: after → note.report = .answered a →
    (a = .allowed ↔ spent note.key before < capacity)

variable {key : String} {report : Report} {log earlier later : List Note} {note : Note}
  {capacity : Nat}

theorem own_append : own key (earlier ++ later) = own key earlier ++ own key later :=
  List.filter_append ..

theorem times_append :
    times key report (earlier ++ later) = times key report earlier ++ times key report later := by
  simp only [times, own_append, List.filter_append, List.map_append]

theorem own_singleton : own key [note] = if note.key = key then [note] else [] := by
  by_cases same : note.key = key
  · simp [own, same]
  · simp [own, same]

@[simp] theorem times_singleton : times key report [note] =
    if note.key = key ∧ note.report = report then [note.time] else [] := by
  rw [times, own_singleton]
  by_cases same : note.key = key
  · by_cases reports : note.report = report
    · simp [same, reports]
    · simp [same, reports]
  · simp [same]

theorem mem_times {t : Nat} : t ∈ times key report log ↔ ⟨t, key, report⟩ ∈ log := by
  simp only [times, own, List.mem_map, List.mem_filter, decide_eq_true_eq]
  constructor
  · rintro ⟨⟨t, key, report⟩, ⟨⟨member, rfl⟩, rfl⟩, rfl⟩
    exact member
  · intro member
    exact ⟨_, ⟨⟨member, rfl⟩, rfl⟩, rfl⟩

theorem spent_append_singleton : spent key (log ++ [note]) =
    if note.key = key then spends (spent key log) note.report else spent key log := by
  rw [spent, own_append, own_singleton]
  by_cases same : note.key = key
  · rw [if_pos same, if_pos same, List.reverse_append, List.reverse_singleton,
      List.singleton_append, List.takeWhile_cons]
    match reports : note.report with
    | .renewed => simp [spends]
    | .answered .allowed => simp [spends, spent, reports]
    | .answered .denied => simp [spends, spent, reports]
    | .started => simp [spends, spent, reports]
    | .stopped => simp [spends, spent, reports]
  · rw [if_neg same, if_neg same, List.append_nil, spent]

/-- What is reported of one client at a moment says nothing of the other clients. -/
theorem times_append_reports (t : Nat) (k : String) (reports : List Report) :
    times key report (log ++ reports.map fun x => ⟨t, k, x⟩) = times key report log ++
      if k = key then List.replicate (reports.count report) t else [] := by
  induction reports generalizing log with
  | nil => simp [times]
  | cons x reports ih =>
      rw [List.map_cons, List.append_cons, ih, times_append, times_singleton, List.append_assoc]
      by_cases same : k = key
      · by_cases reports : x = report
        · simp [same, reports, List.replicate_succ]
        · simp [same, reports]
      · simp [same]

theorem times_append_silent {t : Nat} {k : String} {reports : List Report}
    (silent : k ≠ key ∨ report ∉ reports) :
    times key report (log ++ reports.map fun x => ⟨t, k, x⟩) = times key report log := by
  rw [times_append_reports]
  obtain other | absent := silent
  · rw [if_neg other, List.append_nil]
  · rw [List.count_eq_zero.mpr absent, List.replicate_zero, ite_self, List.append_nil]

theorem spent_append_reports (t : Nat) (k : String) (reports : List Report) :
    spent key (log ++ reports.map fun x => ⟨t, k, x⟩) =
      if k = key then reports.foldl spends (spent key log) else spent key log := by
  induction reports generalizing log with
  | nil => simp
  | cons x reports ih =>
      rw [List.map_cons, List.append_cons, ih, spent_append_singleton]
      by_cases same : k = key
      · simp [same]
      · simp [same]

/-- Where a journal with one note more is split at a note, it is the new one or stands before. -/
theorem split_cases {other : Note} (split : log ++ [note] = earlier ++ other :: later) :
    (later = [] ∧ log = earlier ∧ note = other) ∨ ∃ rest, log = earlier ++ other :: rest := by
  obtain rfl | ⟨rest, latest, rfl⟩ := List.eq_nil_or_concat later
  · obtain ⟨rfl, ⟨⟩⟩ := List.append_inj' split rfl
    exact .inl ⟨rfl, rfl, rfl⟩
  · rw [List.concat_eq_append, ← List.cons_append, ← List.append_assoc] at split
    exact .inr ⟨rest, (List.append_inj' split rfl).1⟩

namespace Limited

theorem nil : Limited capacity [] := by
  intro before note after a split
  simp at split

theorem append_singleton (limited : Limited capacity log)
    (answers : ∀ a, note.report = .answered a →
      (a = .allowed ↔ spent note.key log < capacity)) : Limited capacity (log ++ [note]) := by
  intro before other after a split answer
  obtain ⟨-, rfl, rfl⟩ | ⟨rest, same⟩ := split_cases split
  · exact answers a answer
  · exact limited before other rest a same answer

theorem append_silent (limited : Limited capacity earlier)
    (silent : ∀ n ∈ later, ∀ a, n.report ≠ .answered a) : Limited capacity (earlier ++ later) := by
  induction later using List.reverseRecOn with
  | nil =>
      rw [List.append_nil]
      exact limited
  | append_singleton later note ih =>
      rw [← List.append_assoc]
      refine (ih fun n member => silent n (List.mem_append_left _ member)).append_singleton ?_
      intro a answer
      exact absurd answer (silent note (List.mem_append_right _ List.mem_cons_self) a)

theorem of_append (limited : Limited capacity (earlier ++ later)) : Limited capacity earlier := by
  intro before note after a split
  refine limited before note (after ++ later) a ?_
  rw [split, List.append_assoc]
  rfl

theorem latest (limited : Limited capacity (log ++ [note])) {a : Admission}
    (answer : note.report = .answered a) : a = .allowed ↔ spent note.key log < capacity :=
  limited log note [] a rfl answer

/-- No client has spent more than its quota. -/
theorem spent_le (limited : Limited capacity log) (key : String) : spent key log ≤ capacity := by
  induction log using List.reverseRecOn with
  | nil => exact Nat.zero_le _
  | append_singleton log note ih =>
      have before := ih limited.of_append
      rw [spent_append_singleton]
      by_cases same : note.key = key
      · subst same
        rw [if_pos rfl]
        match reports : note.report with
        | .answered .allowed => exact (limited.latest reports).mp rfl
        | .renewed => exact Nat.zero_le _
        | .answered .denied | .started | .stopped => exact before
      · rw [if_neg same]
        exact before

/-- What a stretch of the journal allows a client is one quota for each renewal in it, and what the
client has spent at its end. -/
theorem allowed_le (limited : Limited capacity (earlier ++ later)) (key : String) :
    (times key (.answered .allowed) later).length ≤
      capacity * (times key .renewed later).length + spent key (earlier ++ later) := by
  induction later using List.reverseRecOn with
  | nil => exact Nat.zero_le _
  | append_singleton later note ih =>
      rw [← List.append_assoc] at limited
      have before := ih limited.of_append
      have bound := limited.of_append.spent_le key
      rw [← List.append_assoc, spent_append_singleton, times_append, times_append,
        List.length_append, List.length_append, times_singleton, times_singleton]
      by_cases same : note.key = key
      · match reports : note.report with
        | .answered .allowed => simp [same, spends]; omega
        | .renewed => simp [same, spends, Nat.mul_add]; omega
        | .answered .denied => simpa [same, spends] using before
        | .started => simpa [same, spends] using before
        | .stopped => simpa [same, spends] using before
      · simpa [same] using before

end Limited

/-- A moment cuts the journal in two. -/
theorem exists_cut (sorted : log.Pairwise fun m n => m.time ≤ n.time) (a : Nat) :
    ∃ before after, log = before ++ after ∧ (∀ n ∈ before, n.time < a) ∧
      ∀ n ∈ after, a ≤ n.time := by
  induction log with
  | nil => exact ⟨[], [], rfl, nofun, nofun⟩
  | cons note log ih =>
      obtain ⟨follow, sorted⟩ := List.pairwise_cons.mp sorted
      by_cases early : note.time < a
      · obtain ⟨before, after, rfl, first, last⟩ := ih sorted
        refine ⟨note :: before, after, rfl, ?_, last⟩
        exact List.forall_mem_cons.mpr ⟨early, first⟩
      · refine ⟨[], note :: log, rfl, nofun, List.forall_mem_cons.mpr ?_⟩
        have late := Nat.le_of_not_lt early
        exact ⟨late, fun n member => Nat.le_trans late (follow n member)⟩

/-- The notes of a span of time are a stretch of the journal. -/
theorem exists_stretch (sorted : log.Pairwise fun m n => m.time ≤ n.time) (a b : Nat) :
    ∃ before within after, log = before ++ within ++ after ∧ (∀ n ∈ before, n.time < a) ∧
      (∀ n ∈ within, a ≤ n.time ∧ n.time < b) ∧ ∀ n ∈ after, b ≤ n.time := by
  obtain ⟨before, rest, rfl, early, reached⟩ := exists_cut sorted a
  obtain ⟨within, after, rfl, inside, late⟩ := exists_cut (List.pairwise_append.mp sorted).2.1 b
  exact ⟨before, within, after, (List.append_assoc ..).symm, early,
    fun n member => ⟨reached n (List.mem_append_left _ member), inside n member⟩, late⟩

/-- Renewals that lie a window apart come at most once in a window. -/
theorem length_renewals_le {window a b : Nat} (narrow : b ≤ a + window)
    (spaced : (times key .renewed log).Pairwise fun s t => s + window ≤ t)
    (within : ∀ n ∈ log, a ≤ n.time ∧ n.time < b) : (times key .renewed log).length ≤ 1 := by
  match renewals : times key .renewed log with
  | [] | [_] => simp
  | s :: t :: rest =>
      rw [renewals] at spaced
      have apart := (List.pairwise_cons.mp spaced).1 t List.mem_cons_self
      have first := within _ (mem_times.mp (renewals ▸ List.mem_cons_self : s ∈ _))
      have second := within ⟨t, key, .renewed⟩ (mem_times.mp (by simp [renewals]))
      simp only at first second
      omega

/-- No window of time allows a client more than two quotas. -/
theorem Limited.window_le {window a b : Nat} (limited : Limited capacity log)
    (sorted : log.Pairwise fun m n => m.time ≤ n.time)
    (spaced : (times key .renewed log).Pairwise fun s t => s + window ≤ t)
    (narrow : b ≤ a + window) :
    ((times key (.answered .allowed) log).filter fun t => a ≤ t ∧ t < b).length ≤
      2 * capacity := by
  obtain ⟨before, within, after, rfl, early, inside, late⟩ := exists_stretch sorted a b
  have allowed := limited.of_append.allowed_le key
  have bound := limited.of_append.spent_le key
  have renewals : (times key .renewed within).length ≤ 1 := by
    refine length_renewals_le narrow (spaced.sublist ?_) inside
    rw [times_append, times_append]
    exact (List.sublist_append_right _ _).trans (List.sublist_append_left _ _)
  have none_before : (times key (.answered .allowed) before).filter
      (fun t => a ≤ t ∧ t < b) = [] := by
    refine List.filter_eq_nil_iff.mpr fun t member => ?_
    have := early _ (mem_times.mp member)
    simp only [decide_eq_true_eq] at this ⊢
    omega
  have none_after : (times key (.answered .allowed) after).filter
      (fun t => a ≤ t ∧ t < b) = [] := by
    refine List.filter_eq_nil_iff.mpr fun t member => ?_
    have := late _ (mem_times.mp member)
    simp only [decide_eq_true_eq] at this ⊢
    omega
  rw [times_append, times_append, List.filter_append, List.filter_append, none_before, none_after,
    List.nil_append, List.append_nil]
  calc _ ≤ (times key (.answered .allowed) within).length := List.length_filter_le ..
    _ ≤ capacity * (times key .renewed within).length + spent key (before ++ within) := allowed
    _ ≤ capacity * 1 + capacity := Nat.add_le_add (Nat.mul_le_mul_left _ renewals) bound
    _ = 2 * capacity := by omega

end Journal

end RequestGuard
