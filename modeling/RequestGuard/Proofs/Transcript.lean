import RequestGuard.Proofs.Exchange
import RequestGuard.Proofs.Traffic.Basic

/-!
# Transcripts of an exchange

Which calls and replies, one by one, an exchange has behind it where it matters: when it grants,
when it comes to lock an account, when it denies a replay, and when it fails although every call
was answered. Nothing is assumed of the replies. They may contradict each other, and a counter
may be any word.

Each stage has one lemma that splits the history of the stage into its own calls and those of the
stage after it. `of_decide` puts them together, and `fails_closed` reads off what it takes to be
granted, and what makes an exchange fail.
-/

namespace RequestGuard

namespace Exchange

/-- The reply by which a token is found not to be blacklisted. -/
inductive Clears (key : String) : List Made → Prop
  | unknown : Clears key [⟨.fetch key, some (.ok none)⟩]
  | low {v : SignedWord} (low : v.toInt < blacklistFloor.toInt) :
      Clears key [⟨.fetch key, some (.ok (some v))⟩]

/-- The calls and replies by which the use-count check comes to a counter: it finds one, or it
records the first use, or it is forestalled and looks again. If the counter is then gone, it is
taken for one. -/
inductive Judged (key : String) (ttl : Span) : List Made → SignedWord → Prop
  | found (v : SignedWord) : Judged key ttl [⟨.fetch key, some (.ok (some v))⟩] v
  | recorded : Judged key ttl
      [⟨.fetch key, some (.ok none)⟩, ⟨.insertIfAbsent key 1 ttl, some (.ok true)⟩] 1
  | forestalled (v : Option SignedWord) : Judged key ttl
      [⟨.fetch key, some (.ok none)⟩, ⟨.insertIfAbsent key 1 ttl, some (.ok false)⟩,
        ⟨.fetch key, some (.ok v)⟩] (v.getD 1)

/-- The account of the token is at its version and not locked, and the increment has the given
reply. -/
def accountAndCount (key : String) (c : Claims) (uses : Option SignedWord) : List Made :=
  [⟨.currentVersion c.subject, some (.ok (some c.version))⟩,
    ⟨.isLocked c.subject, some (.ok false)⟩, ⟨.increment key, some (.ok uses)⟩]

/-- What is left of an exchange where it grants, denies a replay, is about to lock an account, or
has failed. -/
inductive Decisive : Program Decision → Prop
  | granted : Decisive (.pure .granted)
  | replay : Decisive (.pure (.denied .replay))
  | lock (a : AccountId) (next : Unit → Program Decision) : Decisive (.call (.lock a) next)
  | fail (f : Failure) : Decisive (.fail f)

variable {l : Ledger} {c : Claims} {ttl : Span} {h : List Made} {q : Program Decision}
  {key : String}

/-- Where an exchange is decisive, it has come beyond all calls but that of the lock. -/
theorem Decisive.beyond {x : Call} {next : x.Answer → Program Decision} (decisive : Decisive q)
    (leads : Program.Leads (some (.call x next)) h (some q)) (answered : Program.AllAnswered h)
    (other : ∀ a, x ≠ .lock a) :
    ∃ a rest, h = ⟨x, some (.ok a)⟩ :: rest ∧ Program.AllAnswered rest ∧
      Program.Leads (some (next a)) rest (some q) := by
  refine leads.beyond_call answered ?_
  rintro next' ⟨⟩
  cases decisive
  exact other _ rfl

/-- What an exchange does once the use-count check has come to a counter. -/
def pursue (l : Ledger) (c : Claims) (ttl : Span) (v : SignedWord) : Program Decision :=
  (Program.ofStore (Ledger.judge (l.key c.tokenId) v)).bind fun
    | .tooManyUses _ => escalate l c ttl
    | .fresh => checkAccount l c ttl

theorem checkUses_eq : checkUses l c ttl = .call (.fetch (l.key c.tokenId)) fun
    | some v => pursue l c ttl v
    | none => .call (.insertIfAbsent (l.key c.tokenId) 1 ttl) fun
      | true => checkAccount l c ttl
      | false => .call (.fetch (l.key c.tokenId)) fun v => pursue l c ttl (v.getD 1) := by
  refine congrArg (Program.call (.fetch (l.key c.tokenId))) (funext fun value => ?_)
  cases value with
  | some v => rfl
  | none =>
      refine congrArg (Program.call (.insertIfAbsent (l.key c.tokenId) 1 ttl))
        (funext fun written => ?_)
      cases written with
      | true => rfl
      | false => rfl

theorem checkAccount_eq : checkAccount l c ttl = .call (.currentVersion c.subject) fun
    | none => .pure (.denied .unknownAccount)
    | some current => .call (.isLocked c.subject) fun
      | true => .pure (.denied .accountLocked)
      | false => if current ≠ c.version then .pure (.denied .staleVersion) else claim l c ttl := by
  refine congrArg (Program.call (.currentVersion c.subject)) (funext fun version => ?_)
  cases version with
  | none => rfl
  | some current =>
      refine congrArg (Program.call (.isLocked c.subject)) (funext fun locked => ?_)
      cases locked <;> rfl

/-- What a malformed counter is reported as. -/
def malformed (key : String) : Option SignedWord → StoreError
  | none => .malformedValue key "no use count recorded for this token"
  | some v => .malformedValue key ("use count " ++ toString v.toInt ++ " is not positive")

theorem interpret_low {v : SignedWord} (low : v.toInt ≤ 0) :
    Ledger.interpret key v = .error (malformed key (some v)) := by
  have floor := toInt_blacklistFloor
  rw [Ledger.interpret, if_neg (by omega), if_neg (by omega), if_neg (by omega), malformed]

/-- A counter above one is a replay, a counter of one goes on to the account, and any other is
malformed. -/
theorem pursue_cases (l : Ledger) (c : Claims) (ttl : Span) (v : SignedWord) :
    (2 ≤ v.toInt ∧ pursue l c ttl v = escalate l c ttl) ∨
    (v = 1 ∧ pursue l c ttl v = checkAccount l c ttl) ∨
    (v.toInt ≤ 0 ∧
      pursue l c ttl v = .fail (.storage (malformed (l.key c.tokenId) (some v)))) := by
  obtain ⟨high, _, same⟩ | ⟨one, same⟩ | ⟨low, _⟩ := judge_cases (l.key c.tokenId) v
  · refine .inl ⟨high, ?_⟩
    rw [pursue, same]
    rfl
  · refine .inr (.inl ⟨SignedWord.eq_of_toInt_eq one, ?_⟩)
    rw [pursue, same]
    rfl
  · refine .inr (.inr ⟨low, ?_⟩)
    rw [pursue, Ledger.judge, interpret_low low]
    rfl

/-- An increment to two is the claim of the token, one to the floor or beyond finds it
blacklisted, one to another count of uses finds a replay, and any other is malformed. -/
theorem conclude_cases (l : Ledger) (c : Claims) (ttl : Span) (uses : Option SignedWord) :
    (uses = some 2 ∧ conclude l c ttl uses = .pure .granted) ∨
    (∃ v, uses = some v ∧ blacklistFloor.toInt ≤ v.toInt ∧
      conclude l c ttl uses = .pure (.denied .blacklisted)) ∨
    (∃ v, uses = some v ∧ 0 < v.toInt ∧ v.toInt < blacklistFloor.toInt ∧ v ≠ 2 ∧
      conclude l c ttl uses = escalate l c ttl) ∨
    ((∀ v, uses = some v → v.toInt ≤ 0) ∧
      conclude l c ttl uses = .fail (.storage (malformed (l.key c.tokenId) uses))) := by
  match uses with
  | none =>
      refine .inr (.inr (.inr ⟨?_, rfl⟩))
      rintro _ ⟨⟩
  | some v =>
      obtain ⟨high, _⟩ | ⟨positive, below, same⟩ | ⟨low, _⟩ := marked_some (l.key c.tokenId) v
      · exact .inr (.inl ⟨v, rfl, high, conclude_high high⟩)
      · by_cases two : v.toInt = 2
        · exact .inl ⟨congrArg some (SignedWord.eq_of_toInt_eq two), conclude_two two⟩
        · refine .inr (.inr (.inl ⟨v, rfl, positive, below, ?_, ?_⟩))
          · rintro rfl
            exact two (by decide)
          · simp only [conclude, same, if_neg two]
      · refine .inr (.inr (.inr ⟨?_, ?_⟩))
        · rintro _ ⟨⟩
          exact low
        · rw [conclude, Ledger.marked, interpret_low low]

section Stages

variable (decisive : Decisive q) (answered : Program.AllAnswered h)

include decisive answered

theorem of_check (leads : Program.Leads (some (check l c ttl)) h (some q)) :
    ∃ first rest, h = first ++ rest ∧ Clears (l.key c.tokenId) first ∧
      Program.Leads (some (checkUses l c ttl)) rest (some q) := by
  obtain ⟨v, rest, rfl, _, onward⟩ := decisive.beyond leads answered fun _ => nofun
  match v with
  | none => exact ⟨[_], rest, rfl, .unknown, onward⟩
  | some v =>
      replace onward : Program.Leads (some (examine l c ttl (some v))) rest (some q) := onward
      by_cases high : blacklistFloor.toInt ≤ v.toInt
      · rw [examine_high high] at onward
        obtain ⟨_, ⟨⟩⟩ := Program.Leads.pure_iff.mp onward
        cases decisive
      · rw [examine_low high] at onward
        exact ⟨[_], rest, rfl, .low (Int.not_le.mp high), onward⟩

theorem of_checkUses (leads : Program.Leads (some (checkUses l c ttl)) h (some q)) :
    ∃ uses v rest, h = uses ++ rest ∧ Judged (l.key c.tokenId) ttl uses v ∧
      Program.Leads (some (pursue l c ttl v)) rest (some q) := by
  rw [checkUses_eq] at leads
  obtain ⟨v, rest, rfl, further, judges⟩ := decisive.beyond leads answered fun _ => nofun
  match v with
  | some v => exact ⟨[_], v, rest, rfl, .found v, judges⟩
  | none =>
      obtain ⟨written, rest, rfl, last, goes⟩ := decisive.beyond judges further fun _ => nofun
      match written with
      | true => exact ⟨[_, _], 1, rest, rfl, .recorded, goes⟩
      | false =>
          obtain ⟨v, rest, rfl, _, again⟩ := decisive.beyond goes last fun _ => nofun
          exact ⟨[_, _, _], v.getD 1, rest, rfl, .forestalled v, again⟩

theorem of_checkAccount (leads : Program.Leads (some (checkAccount l c ttl)) h (some q)) :
    ∃ uses rest, h = accountAndCount (l.key c.tokenId) c uses ++ rest ∧
      Program.Leads (some (conclude l c ttl uses)) rest (some q) := by
  rw [checkAccount_eq] at leads
  obtain ⟨version, rest, rfl, further, asks⟩ := decisive.beyond leads answered fun _ => nofun
  match version with
  | none =>
      obtain ⟨_, ⟨⟩⟩ := Program.Leads.pure_iff.mp asks
      cases decisive
  | some current =>
      obtain ⟨locked, rest, rfl, last, compares⟩ := decisive.beyond asks further fun _ => nofun
      match locked with
      | true =>
          obtain ⟨_, ⟨⟩⟩ := Program.Leads.pure_iff.mp compares
          cases decisive
      | false =>
          replace compares : Program.Leads (some (if current ≠ c.version then
            .pure (.denied .staleVersion) else claim l c ttl)) rest (some q) := compares
          by_cases same : current = c.version
          · subst same
            rw [if_neg (not_not_intro rfl), claim_eq] at compares
            obtain ⟨uses, rest, rfl, _, onward⟩ := decisive.beyond compares last fun _ => nofun
            exact ⟨uses, rest, rfl, onward⟩
          · rw [if_pos same] at compares
            obtain ⟨_, ⟨⟩⟩ := Program.Leads.pure_iff.mp compares
            cases decisive

end Stages

/-- A token that has not expired, and that the first fetch clears, comes to the counter of the
use-count check. -/
theorem reaches_counter {now : Instant} {first uses : List Made} {v : SignedWord}
    (early : now < c.expiresAt) (clears : Clears (l.key c.tokenId) first)
    (judged : Judged (l.key c.tokenId) (c.expiresAt.since now) uses v) :
    Program.Leads (some (decide l c now)) (first ++ uses)
      (some (pursue l c (c.expiresAt.since now) v)) := by
  rw [decide, (c.remaining?_eq_some_iff now _).mpr ⟨early, rfl⟩]
  have counts : Program.Leads (some (checkUses l c (c.expiresAt.since now))) uses
      (some (pursue l c (c.expiresAt.since now) v)) := by
    rw [checkUses_eq]
    cases judged with
    | found => exact .answer (.stay _)
    | recorded => exact .answer (.answer (.stay _))
    | forestalled => exact .answer (.answer (.answer (.stay _)))
  cases clears with
  | unknown => exact counts.answer
  | low low =>
      rw [← examine_low (Int.not_le.mpr low)] at counts
      exact counts.answer

/-- With its account in order, a token comes to the increment. -/
theorem reaches_count (uses : Option SignedWord) :
    Program.Leads (some (checkAccount l c ttl)) (accountAndCount (l.key c.tokenId) c uses)
      (some (conclude l c ttl uses)) := by
  rw [checkAccount_eq]
  refine .answer (.answer ?_)
  simp only [ne_eq, not_true_eq_false, if_false, claim_eq]
  exact .answer (.stay _)

/-- The transcripts of an exchange that grants. -/
inductive Granting (key : String) (c : Claims) (ttl : Span) : List Made → Prop
  | intro {first uses : List Made} (clears : Clears key first) (judged : Judged key ttl uses 1) :
      Granting key c ttl (first ++ (uses ++ accountAndCount key c (some 2)))

/-- The transcripts that show a replay: the use-count check has come to a counter above one, or
the increment has led to a count of uses other than two. -/
inductive Overspent (key : String) (c : Claims) (ttl : Span) : List Made → Prop
  | judged {first uses : List Made} {v : SignedWord} (clears : Clears key first)
      (judged : Judged key ttl uses v) (high : 2 ≤ v.toInt) : Overspent key c ttl (first ++ uses)
  | counted {first uses : List Made} {v : SignedWord} (clears : Clears key first)
      (judged : Judged key ttl uses 1) (positive : 0 < v.toInt)
      (below : v.toInt < blacklistFloor.toInt) (other : v ≠ 2) :
      Overspent key c ttl (first ++ (uses ++ accountAndCount key c (some v)))

/-- The transcripts that end with a counter that makes no sense, and the error that says so. -/
inductive Malformed (key : String) (c : Claims) (ttl : Span) : List Made → StoreError → Prop
  | judged {first uses : List Made} {v : SignedWord} (clears : Clears key first)
      (judged : Judged key ttl uses v) (low : v.toInt ≤ 0) :
      Malformed key c ttl (first ++ uses) (malformed key (some v))
  | counted {first uses : List Made} {n : Option SignedWord} (clears : Clears key first)
      (judged : Judged key ttl uses 1) (low : ∀ v, n = some v → v.toInt ≤ 0) :
      Malformed key c ttl (first ++ (uses ++ accountAndCount key c n)) (malformed key n)

section Outcomes

variable {now : Instant}

/-- A transcript that shows a replay leads to the escalation. -/
theorem Overspent.leads (overspent : Overspent (l.key c.tokenId) c (c.expiresAt.since now) h)
    (early : now < c.expiresAt) : Program.Leads (some (decide l c now)) h
      (some (escalate l c (c.expiresAt.since now))) := by
  cases overspent with
  | @judged first uses v clears judged high =>
      have reached := reaches_counter early clears judged
      obtain ⟨_, same⟩ | ⟨rfl, _⟩ | ⟨low, _⟩ := pursue_cases l c (c.expiresAt.since now) v
      · exact same ▸ reached
      · exact absurd high (by decide)
      · omega
  | @counted first uses v clears judged positive below other =>
      have reached := (reaches_counter early clears judged).append (reaches_count (some v))
      rw [List.append_assoc] at reached
      obtain ⟨⟨⟩, _⟩ | ⟨_, ⟨⟩, high, _⟩ | ⟨_, ⟨⟩, _, _, _, same⟩ | ⟨low, _⟩ :=
        conclude_cases l c (c.expiresAt.since now) (some v)
      · exact absurd rfl other
      · omega
      · exact same ▸ reached
      · exact absurd (low v rfl) (Int.not_le.mpr positive)

theorem Granting.leads (granting : Granting (l.key c.tokenId) c (c.expiresAt.since now) h)
    (early : now < c.expiresAt) :
    Program.Leads (some (decide l c now)) h (some (.pure .granted)) := by
  cases granting with
  | intro clears judged =>
      have reached := (reaches_counter early clears judged).append (reaches_count (some 2))
      rw [List.append_assoc] at reached
      exact reached

theorem Malformed.leads {e : StoreError}
    (malformed : Malformed (l.key c.tokenId) c (c.expiresAt.since now) h e)
    (early : now < c.expiresAt) :
    Program.Leads (some (decide l c now)) h (some (.fail (.storage e))) := by
  cases malformed with
  | @judged first uses v clears judged low =>
      have reached := reaches_counter early clears judged
      obtain ⟨high, _⟩ | ⟨rfl, _⟩ | ⟨_, same⟩ := pursue_cases l c (c.expiresAt.since now) v
      · omega
      · exact absurd low (by decide)
      · exact same ▸ reached
  | @counted first uses n clears judged low =>
      have reached := (reaches_counter early clears judged).append (reaches_count n)
      rw [List.append_assoc] at reached
      obtain ⟨rfl, _⟩ | ⟨v, rfl, high, _⟩ | ⟨v, rfl, positive, _⟩ | ⟨_, same⟩ :=
        conclude_cases l c (c.expiresAt.since now) n
      · exact absurd (low 2 rfl) (by decide)
      · have floor := toInt_blacklistFloor
        have := low v rfl
        omega
      · exact absurd (low v rfl) (Int.not_le.mpr positive)
      · exact same ▸ reached

/-- If all calls were answered, an exchange at a decisive point has granted, or has found a replay
and escalates it, or has failed for a malformed counter. -/
theorem of_decide (decisive : Decisive q) (answered : Program.AllAnswered h)
    (leads : Program.Leads (some (decide l c now)) h (some q)) : now < c.expiresAt ∧
      (q = .pure .granted ∧ Granting (l.key c.tokenId) c (c.expiresAt.since now) h ∨
      (∃ before rest, h = before ++ rest ∧
        Overspent (l.key c.tokenId) c (c.expiresAt.since now) before ∧
        Program.Leads (some (escalate l c (c.expiresAt.since now))) rest (some q)) ∨
      ∃ e, q = .fail (.storage e) ∧
        Malformed (l.key c.tokenId) c (c.expiresAt.since now) h e) := by
  rw [decide] at leads
  cases remaining : c.remaining? now with
  | none =>
      rw [remaining] at leads
      obtain ⟨_, ⟨⟩⟩ := Program.Leads.pure_iff.mp leads
      cases decisive
  | some ttl =>
      rw [remaining] at leads
      obtain ⟨early, rfl⟩ := (c.remaining?_eq_some_iff now ttl).mp remaining
      obtain ⟨first, rest, rfl, clears, counts⟩ := of_check decisive answered leads
      obtain ⟨uses, v, rest, rfl, judged, pursues⟩ :=
        of_checkUses decisive answered.of_append counts
      refine ⟨early, ?_⟩
      obtain ⟨high, same⟩ | ⟨rfl, same⟩ | ⟨low, same⟩ :=
        pursue_cases l c (c.expiresAt.since now) v
      · rw [same] at pursues
        refine .inr (.inl ⟨first ++ uses, rest, ?_, .judged clears judged high, pursues⟩)
        rw [List.append_assoc]
      · rw [same] at pursues
        obtain ⟨n, rest, rfl, concludes⟩ :=
          of_checkAccount decisive answered.of_append.of_append pursues
        obtain ⟨rfl, ends⟩ | ⟨v, rfl, _, ends⟩ | ⟨v, rfl, positive, below, other, ends⟩ |
          ⟨low, ends⟩ := conclude_cases l c (c.expiresAt.since now) n
        · rw [ends] at concludes
          obtain ⟨rfl, ⟨⟩⟩ := Program.Leads.pure_iff.mp concludes
          rw [List.append_nil]
          exact .inl ⟨rfl, .intro clears judged⟩
        · rw [ends] at concludes
          obtain ⟨_, ⟨⟩⟩ := Program.Leads.pure_iff.mp concludes
          cases decisive
        · rw [ends] at concludes
          refine .inr (.inl ⟨_, rest, ?_, .counted clears judged positive below other,
            concludes⟩)
          simp only [List.append_assoc]
        · rw [ends] at concludes
          obtain ⟨rfl, ⟨⟩⟩ := Program.Leads.fail_iff.mp concludes
          rw [List.append_nil]
          exact .inr (.inr ⟨_, rfl, .counted clears judged low⟩)
      · rw [same] at pursues
        obtain ⟨rfl, ⟨⟩⟩ := Program.Leads.fail_iff.mp pursues
        rw [List.append_nil]
        exact .inr (.inr ⟨_, rfl, .judged clears judged low⟩)

/-- An escalation at a decisive point is about to lock the account, or has locked it and
blacklisted the token. -/
theorem of_escalate (decisive : Decisive q) (answered : Program.AllAnswered h)
    (leads : Program.Leads (some (escalate l c ttl)) h (some q)) :
    (h = [] ∧ q = escalate l c ttl) ∨
      (h = [⟨.lock c.subject, some (.ok ())⟩,
        ⟨.insert (l.key c.tokenId) blacklistFloor ttl, some (.ok ())⟩] ∧
        q = .pure (.denied .replay)) := by
  obtain ⟨rfl, ⟨⟩⟩ | ⟨reply, rest, rfl, locked⟩ := Program.Leads.call_iff.mp leads
  · exact .inl ⟨rfl, rfl⟩
  obtain ⟨a, rfl⟩ : ∃ a : Unit, reply = some (.ok a) := answered _ List.mem_cons_self
  obtain ⟨_, rest, rfl, _, ends⟩ := decisive.beyond locked answered.tail fun _ => nofun
  obtain ⟨rfl, ⟨⟩⟩ := Program.Leads.pure_iff.mp ends
  exact .inr ⟨rfl, rfl⟩

/-- What it takes to be granted, and to fail, whatever the store and the directory reply. An
exchange grants exactly if the token lives and the calls and their replies are those of `Granting`.
A call that fails is the last one, and its failure is the outcome. And there is no other failure
but that of a malformed counter. -/
theorem fails_closed (l : Ledger) (c : Claims) (now : Instant) (h : List Made) :
    (Program.Leads (some (decide l c now)) h (some (.pure .granted)) ↔
      now < c.expiresAt ∧ Granting (l.key c.tokenId) c (c.expiresAt.since now) h) ∧
    (∀ q x f, Program.Leads (some (decide l c now)) h q → (⟨x, some (.error f)⟩ : Made) ∈ h →
      q = some (.fail f) ∧ ∃ earlier, h = earlier ++ [⟨x, some (.error f)⟩]) ∧
    ∀ f, Program.Leads (some (decide l c now)) h (some (.fail f)) ↔
      (∃ earlier x next, h = earlier ++ [⟨x, some (.error f)⟩] ∧
        Program.Leads (some (decide l c now)) earlier (some (.call x next))) ∨
      now < c.expiresAt ∧ ∃ e, f = .storage e ∧
        Malformed (l.key c.tokenId) c (c.expiresAt.since now) h e := by
  refine ⟨⟨fun leads => ?_, fun ⟨early, granting⟩ => granting.leads early⟩, ?_, fun f => ⟨?_, ?_⟩⟩
  · have answered := leads.allAnswered fun _ same => (nomatch same)
    obtain ⟨early, ⟨-, granting⟩ | ⟨before, rest, rfl, _, escalates⟩ | ⟨e, ⟨⟩, _⟩⟩ :=
      of_decide .granted answered leads
    · exact ⟨early, granting⟩
    · obtain ⟨_, ends⟩ | ⟨_, ⟨⟩⟩ := of_escalate .granted answered.of_append escalates
      cases ends
  · intro q x f leads member
    exact leads.fail_of_mem member rfl
  · intro leads
    obtain answered | ⟨earlier, x, next, f', rfl, ⟨⟩, before⟩ := leads.answered_or_failed
    · obtain ⟨early, ⟨⟨⟩, _⟩ | ⟨before, rest, rfl, _, escalates⟩ | ⟨e, ⟨⟩, malformed⟩⟩ :=
        of_decide (.fail f) answered leads
      · obtain ⟨_, ends⟩ | ⟨_, ⟨⟩⟩ := of_escalate (.fail f) answered.of_append escalates
        cases ends
      · exact .inr ⟨early, e, rfl, malformed⟩
    · exact .inl ⟨earlier, x, next, rfl, before⟩
  · rintro (⟨earlier, x, next, rfl, before⟩ | ⟨early, e, rfl, malformed⟩)
    · exact before.extend (some (.error f)) rfl
    · exact malformed.leads early

end Outcomes

/-- Replies that contradict each other: a negative counter that is then gone, cannot be recorded,
and is still gone, but is counted to two. -/
def oddReplies (key : String) (c : Claims) (ttl : Span) : List Made :=
  [⟨.fetch key, some (.ok (some ⟨-5, by decide, by decide⟩))⟩, ⟨.fetch key, some (.ok none)⟩,
    ⟨.insertIfAbsent key 1 ttl, some (.ok false)⟩, ⟨.fetch key, some (.ok none)⟩] ++
  accountAndCount key c (some 2)

/-- Contradictory replies may grant, but not if the last of them is a failure. -/
theorem granted_by_odd_replies :
    let c := Traffic.sampleClaims
    let f := Directory.unknown c.subject
    let key := Ledger.standard.key c.tokenId
    let odd := oddReplies key c (.ofSeconds 60)
    Program.Leads (some (decide .standard c (.ofSeconds 0))) odd (some (.pure .granted)) ∧
    Program.Leads (some (decide .standard c (.ofSeconds 0)))
      (odd.dropLast ++ [⟨.increment key, some (.error f)⟩]) (some (.fail f)) ∧
    ∀ q, Program.Leads (some (decide .standard c (.ofSeconds 0)))
      (odd.dropLast ++ [⟨.increment key, some (.error f)⟩]) q → q = some (.fail f) := by
  intro c f key odd
  refine ⟨(fails_closed .standard c (.ofSeconds 0) odd).1.mpr
    ⟨by decide, .intro (.low (by decide)) (.forestalled none)⟩, ?_, fun q leads => ?_⟩
  · refine .answer (.answer (.answer (.answer (.answer (.answer ?_)))))
    exact .call (.stay _)
  · have failed := (fails_closed .standard c (.ofSeconds 0) _).2.1 q (.increment key) f leads
    exact (failed (List.mem_append_right _ List.mem_cons_self)).1

end Exchange

end RequestGuard
