import RequestGuard.Call

/-!
# Histories of calls

What a program has done so far is the list of the calls that it made, each with its
reply. A program is a tree, so this history determines what is left of it. Nothing is
assumed of the replies: a history need not be one that any store or directory gives.

The main statements are `Leads.extend`, by which a history grows call by call, and
`Uses.of_leads` and `Forces.of_leads`, which turn what is seen on the tree of a program
into facts about each of its histories.
-/

namespace RequestGuard

/-- A call that was made, with its reply. A call that never came back has none. -/
structure Made where
  call : Call
  reply : Option call.Reply

/-- Whether a history has that call with that answer. -/
def Heard (h : List Made) (c : Call) (a : c.Answer) : Prop :=
  (⟨c, some (.ok a)⟩ : Made) ∈ h

namespace Program

variable {α : Type}

/-- What is left of a program after the reply to its call: a failure ends it, and after
a call that never comes back nothing is left. -/
def resume {c : Call} (next : c.Answer → Program α) : Option c.Reply → Option (Program α)
  | some (.ok a) => some (next a)
  | some (.error f) => some (.fail f)
  | none => none

def ended : Except Failure α → Program α
  | .ok a => .pure a
  | .error f => .fail f

/-- `Leads p h q`: of `p`, the calls and replies `h` leave `q`. -/
inductive Leads : Option (Program α) → List Made → Option (Program α) → Prop
  | stay (p : Option (Program α)) : Leads p [] p
  | call {c : Call} {next : c.Answer → Program α} {reply : Option c.Reply} {h : List Made}
      {q : Option (Program α)} (rest : Leads (resume next reply) h q) :
      Leads (some (.call c next)) (⟨c, reply⟩ :: h) q

/-- Every call that a program may make is allowed. -/
def Uses (allowed : Call → Prop) : Program α → Prop
  | .pure _ => True
  | .fail _ => True
  | .call c next => allowed c ∧ ∀ a, (next a).Uses allowed

/-- Wherever an answer shows the sign, the program ends at once with the outcome. -/
def Forces (sign : (c : Call) → c.Answer → Prop) (outcome : α) : Program α → Prop
  | .pure _ => True
  | .fail _ => True
  | .call c next => ∀ a, (sign c a → next a = .pure outcome) ∧ (next a).Forces sign outcome

def AllAnswered (h : List Made) : Prop := ∀ made ∈ h, ∃ a, made.reply = some (.ok a)

theorem AllAnswered.tail {made : Made} {h : List Made} (answered : AllAnswered (made :: h)) :
    AllAnswered h := fun made member => answered made (List.mem_cons_of_mem _ member)

theorem AllAnswered.of_append {h h' : List Made} (answered : AllAnswered (h ++ h')) :
    AllAnswered h' := fun made member => answered made (List.mem_append_right _ member)

theorem ended_ne_call {r : Except Failure α} {c : Call} {next : c.Answer → Program α} :
    ended r ≠ .call c next := by
  intro same
  cases r with
  | ok => cases same
  | error => cases same

theorem ended_injective {r r' : Except Failure α} (same : ended r = ended r') : r = r' := by
  cases r with
  | ok a =>
      cases r' with
      | ok b =>
          cases same
          rfl
      | error f => cases same
  | error f =>
      cases r' with
      | ok b => cases same
      | error f' =>
          cases same
          rfl

namespace Leads

variable {p q : Option (Program α)} {h : List Made}

/-- A history grows at its end. -/
theorem extend {c : Call} {next : c.Answer → Program α} (reply : Option c.Reply)
    (l : Leads p h q) (hq : q = some (.call c next)) :
    Leads p (h ++ [⟨c, reply⟩]) (resume next reply) := by
  induction l with
  | stay p =>
      subst hq
      exact .call (.stay _)
  | call rest ih => exact .call (ih hq)

theorem call_iff {c : Call} {next : c.Answer → Program α} :
    Leads (some (.call c next)) h q ↔
      (h = [] ∧ q = some (.call c next)) ∨
        ∃ reply rest, h = ⟨c, reply⟩ :: rest ∧ Leads (resume next reply) rest q := by
  constructor
  · intro l
    cases l with
    | stay => exact .inl ⟨rfl, rfl⟩
    | call rest => exact .inr ⟨_, _, rfl, rest⟩
  · rintro (⟨rfl, rfl⟩ | ⟨reply, rest, rfl, l⟩)
    · exact .stay _
    · exact .call l

@[simp] theorem pure_iff {a : α} : Leads (some (.pure a)) h q ↔ h = [] ∧ q = some (.pure a) := by
  constructor
  · intro l
    cases l
    exact ⟨rfl, rfl⟩
  · rintro ⟨rfl, rfl⟩
    exact .stay _

@[simp] theorem fail_iff {f : Failure} :
    Leads (some (.fail f : Program α)) h q ↔ h = [] ∧ q = some (.fail f) := by
  constructor
  · intro l
    cases l
    exact ⟨rfl, rfl⟩
  · rintro ⟨rfl, rfl⟩
    exact .stay _

@[simp] theorem none_iff : Leads (none : Option (Program α)) h q ↔ h = [] ∧ q = none := by
  constructor
  · intro l
    cases l
    exact ⟨rfl, rfl⟩
  · rintro ⟨rfl, rfl⟩
    exact .stay _

/-- What was left of the program before and after a call of its history. -/
theorem split {h' : List Made} {made : Made} (l : Leads p (h ++ made :: h') q) :
    ∃ next, Leads p h (some (.call made.call next)) ∧ Leads (resume next made.reply) h' q := by
  induction h generalizing p with
  | nil =>
      cases l with
      | call rest => exact ⟨_, .stay _, rest⟩
  | cons first h ih =>
      cases l with
      | call rest =>
          obtain ⟨next, before, after⟩ := ih rest
          exact ⟨next, .call before, after⟩

section Answered

variable {c : Call} {next : c.Answer → Program α} {f : Failure}

theorem append {r : Option (Program α)} (l : Leads p h q) (l' : Leads q h' r) :
    Leads p (h ++ h') r := by
  induction l with
  | stay p => exact l'
  | call rest ih => exact .call (ih l')

/-- A history determines what it leaves of a program. -/
theorem unique {q' : Option (Program α)} (l : Leads p h q) (l' : Leads p h q') : q' = q := by
  induction l with
  | stay p =>
      cases l'
      rfl
  | call rest ih =>
      cases l' with
      | call rest' => exact ih rest'

/-- A call that is answered leads on. -/
theorem answer {a : c.Answer} (onward : Leads (some (next a)) h q) :
    Leads (some (.call c next)) (⟨c, some (.ok a)⟩ :: h) q := .call onward

/-- A failed call is the last one, and its failure is the outcome. -/
theorem fail_of_mem {made : Made} (l : Leads p h q) (member : made ∈ h)
    (failed : made.reply = some (.error f)) :
    q = some (.fail f) ∧ ∃ earlier, h = earlier ++ [made] := by
  obtain ⟨earlier, later, rfl⟩ := List.append_of_mem member
  obtain ⟨next, _, after⟩ := l.split
  rw [failed] at after
  obtain ⟨rfl, rfl⟩ := fail_iff.mp after
  exact ⟨rfl, earlier, rfl⟩

theorem eq_fail (l : Leads p h q) (failed : (⟨c, some (.error f)⟩ : Made) ∈ h) :
    q = some (.fail f) := (l.fail_of_mem failed rfl).1

/-- A program that has neither failed nor lost a call has had an answer to every call. A program
that has failed has, too, unless its last call has failed. -/
theorem answered_or_failed {q : Program α} (l : Leads p h (some q)) : AllAnswered h ∨
    ∃ earlier x next f, h = earlier ++ [⟨x, some (.error f)⟩] ∧ q = .fail f ∧
      Leads p earlier (some (.call x next)) := by
  generalize ends : some q = r at l
  induction l with
  | stay p => exact .inl fun made member => absurd member List.not_mem_nil
  | @call x next reply h r rest ih =>
      match reply with
      | some (.ok a) =>
          obtain answered | ⟨earlier, y, next', f, rfl, failed, before⟩ := ih ends
          · refine .inl fun made member => ?_
            obtain rfl | member := List.mem_cons.mp member
            · exact ⟨a, rfl⟩
            · exact answered made member
          · exact .inr ⟨_ :: earlier, y, next', f, rfl, failed, .call before⟩
      | some (.error f) =>
          obtain ⟨rfl, rfl⟩ := fail_iff.mp rest
          exact .inr ⟨[], x, next, f, rfl, Option.some.inj ends, .stay _⟩
      | none =>
          obtain ⟨rfl, rfl⟩ := none_iff.mp rest
          cases ends

theorem allAnswered {q : Program α} (l : Leads p h (some q)) (well : ∀ f, q ≠ .fail f) :
    AllAnswered h := by
  obtain answered | ⟨_, _, _, f, _, failed, _⟩ := l.answered_or_failed
  · exact answered
  · exact absurd failed (well f)

/-- Where all calls are answered, a program that has come beyond its first call has got an answer
to it and gone on. -/
theorem beyond_call (l : Leads (some (.call c next)) h q) (answered : AllAnswered h)
    (beyond : ∀ next', q ≠ some (.call c next')) :
    ∃ a rest, h = ⟨c, some (.ok a)⟩ :: rest ∧ AllAnswered rest ∧
      Leads (some (next a)) rest q := by
  obtain ⟨rfl, rfl⟩ | ⟨reply, rest, rfl, onward⟩ := call_iff.mp l
  · exact absurd rfl (beyond next)
  · obtain ⟨a, rfl⟩ : ∃ a : c.Answer, reply = some (.ok a) := answered _ List.mem_cons_self
    exact ⟨a, rest, rfl, answered.tail, onward⟩

end Answered

end Leads

namespace Uses

variable {allowed : Call → Prop}

theorem ofStore (r : Except StoreError α) : (Program.ofStore r).Uses allowed := by
  cases r <;> trivial

theorem resume {c : Call} {next : c.Answer → Program α} (u : (Program.call c next).Uses allowed)
    (reply : Option c.Reply) : ∀ p, Program.resume next reply = some p → p.Uses allowed := by
  intro p hp
  match reply with
  | some (.ok a) =>
      cases hp
      exact u.2 a
  | some (.error f) =>
      cases hp
      trivial

private theorem of_leads' {p q : Option (Program α)} {h : List Made} (l : Leads p h q)
    (u : ∀ p', p = some p' → p'.Uses allowed) : ∀ q', q = some q' → q'.Uses allowed := by
  induction l with
  | stay p => exact u
  | call rest ih => exact ih ((u _ rfl).resume _)

/-- What is left of a program makes no other calls than the program. -/
theorem of_leads {p q : Program α} {h : List Made} (l : Leads (some p) h (some q))
    (u : p.Uses allowed) : q.Uses allowed :=
  of_leads' l (fun _ hp => Option.some.inj hp ▸ u) q rfl

end Uses

namespace Forces

variable {sign : (c : Call) → c.Answer → Prop} {outcome : α}

theorem skip {c : Call} {next : c.Answer → Program α} (silent : ∀ a, ¬ sign c a)
    (onward : ∀ a, (next a).Forces sign outcome) : (Program.call c next).Forces sign outcome :=
  fun a => ⟨fun shown => absurd shown (silent a), onward a⟩

private theorem of_leads' {p q : Option (Program α)} {h : List Made} {c : Call} {a : c.Answer}
    (l : Leads p h q) (forces : ∀ p', p = some p' → p'.Forces sign outcome) (heard : Heard h c a)
    (shown : sign c a) : q = some (.pure outcome) := by
  induction l with
  | stay p => cases heard
  | @call c' next reply h q rest ih =>
      have here := forces _ rfl
      rcases List.mem_cons.mp heard with head | tail
      · cases head
        have ends : Program.resume next (some (.ok a)) = some (.pure outcome) :=
          congrArg some ((here a).1 shown)
        rw [ends] at rest
        exact (Leads.pure_iff.mp rest).2
      · refine ih (fun p' hp => ?_) tail
        match reply with
        | some (.ok b) =>
            cases hp
            exact (here b).2
        | some (.error f) =>
            cases hp
            trivial

/-- Once the sign was heard, the program has ended with the outcome. -/
theorem of_leads {p : Program α} {q : Option (Program α)} {h : List Made} {c : Call} {a : c.Answer}
    (l : Leads (some p) h q) (forces : p.Forces sign outcome) (heard : Heard h c a)
    (shown : sign c a) : q = some (.pure outcome) :=
  of_leads' l (fun _ hp => Option.some.inj hp ▸ forces) heard shown

end Forces

end Program

end RequestGuard
