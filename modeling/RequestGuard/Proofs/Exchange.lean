import RequestGuard.Proofs.History
import RequestGuard.Exchange

/-!
# The course of an exchange

What the calls made so far say about where an exchange stands. The statements read the
tree of the exchange only: they hold whatever the store and the directory reply, also of
replies that contradict each other.

`trail_check` is the main statement. Each call that an exchange comes to, and each answer
that it gives, rests on replies that it has heard: it counts a use only of a token that
it knows to have a counter, locks an account only after a counter that was too high, and
grants only after its own increment has led to two.
-/

namespace RequestGuard

theorem Heard.append {h : List Made} {c : Call} {a : c.Answer} (heard : Heard h c a)
    (later : List Made) : Heard (h ++ later) c a := List.mem_append_left _ heard

theorem heard_last (h : List Made) (c : Call) (a : c.Answer) :
    Heard (h ++ [⟨c, some (.ok a)⟩]) c a := by
  simp [Heard]

namespace Exchange

/-- The history shows that the key had a counter. -/
def Recorded (key : String) (h : List Made) : Prop :=
  (∃ v, Heard h (.fetch key) (some v)) ∨
    ∃ ttl written, Heard h (.insertIfAbsent key 1 ttl) written

/-- The history shows a counter of a token of which this presentation is no first use:
one above one, or one that its own increment did not lead to two. -/
def Overused (key : String) (h : List Made) : Prop :=
  (∃ v, Heard h (.fetch key) (some v) ∧ 1 < v.toInt) ∨
    ∃ v, Heard h (.increment key) (some v) ∧ 0 < v.toInt ∧ v.toInt ≠ 2

theorem Recorded.append {key : String} {h : List Made} (r : Recorded key h) (later : List Made) :
    Recorded key (h ++ later) := by
  rcases r with ⟨v, heard⟩ | ⟨ttl, written, heard⟩
  · exact .inl ⟨v, heard.append later⟩
  · exact .inr ⟨ttl, written, heard.append later⟩

theorem Overused.append {key : String} {h : List Made} (o : Overused key h) (later : List Made) :
    Overused key (h ++ later) := by
  rcases o with ⟨v, heard, high⟩ | ⟨v, heard, high⟩
  · exact .inl ⟨v, heard.append later, high⟩
  · exact .inr ⟨v, heard.append later, high⟩

theorem recorded_last (h : List Made) (key : String) (ttl : Span) (written : Bool) :
    Recorded key (h ++ [⟨.insertIfAbsent key 1 ttl, some (.ok written)⟩]) :=
  .inr ⟨ttl, written, heard_last h (.insertIfAbsent key 1 ttl) written⟩

theorem toInt_blacklistFloor : blacklistFloor.toInt = 0x100000000 := rfl

section Trail

variable (l : Ledger) (c : Claims) (ttl : Span) (h : List Made)

/-- The calls of an exchange, each with what it rests on. -/
inductive Stage : Call → Prop
  | fetch : Stage (.fetch (l.key c.tokenId))
  | record : Stage (.insertIfAbsent (l.key c.tokenId) 1 ttl)
  | version : Stage (.currentVersion c.subject)
  | locked : Stage (.isLocked c.subject)
  | claim (recorded : Recorded (l.key c.tokenId) h) : Stage (.increment (l.key c.tokenId))
  | lock (overused : Overused (l.key c.tokenId) h) : Stage (.lock c.subject)
  | invalidate (overused : Overused (l.key c.tokenId) h) :
      Stage (.insert (l.key c.tokenId) blacklistFloor ttl)

/-- The answers of an exchange, each with what it rests on. -/
inductive Verdict : Decision → Prop
  | granted {v : SignedWord} (heard : Heard h (.increment (l.key c.tokenId)) (some v))
      (two : v.toInt = 2) : Verdict .granted
  | blacklisted {v : SignedWord} (heard : Heard h (.fetch (l.key c.tokenId)) (some v) ∨
      Heard h (.increment (l.key c.tokenId)) (some v)) (high : blacklistFloor.toInt ≤ v.toInt) :
      Verdict (.denied .blacklisted)
  | replay (overused : Overused (l.key c.tokenId) h)
      (heard : Heard h (.insert (l.key c.tokenId) blacklistFloor ttl) ()) :
      Verdict (.denied .replay)
  | unknownAccount (heard : Heard h (.currentVersion c.subject) none) :
      Verdict (.denied .unknownAccount)
  | accountLocked (heard : Heard h (.isLocked c.subject) true) : Verdict (.denied .accountLocked)
  | staleVersion {v : Version} (heard : Heard h (.currentVersion c.subject) (some v))
      (other : v ≠ c.version) : Verdict (.denied .staleVersion)

/-- The failures of an exchange: a call has failed, or a counter makes no sense. -/
inductive Fault : Failure → Prop
  | reply {x : Call} {f : Failure} (member : (⟨x, some (.error f)⟩ : Made) ∈ h) : Fault f
  | count {v : SignedWord} (f : Failure) (heard : Heard h (.fetch (l.key c.tokenId)) (some v) ∨
      Heard h (.increment (l.key c.tokenId)) (some v)) (low : v.toInt ≤ 0) : Fault f
  | unmarked (f : Failure) (heard : Heard h (.increment (l.key c.tokenId)) none) : Fault f

/-- Where an exchange stands after the calls of a history. -/
inductive Trail : Option (Program Decision) → Prop
  | calls {x : Call} {next : x.Answer → Program Decision} (stage : Stage l c ttl h x) :
      Trail (some (.call x next))
  | answered {d : Decision} (verdict : Verdict l c ttl h d) : Trail (some (.pure d))
  | failed {f : Failure} (fault : Fault l c h f) : Trail (some (.fail f))
  | lost : Trail none

end Trail

variable {l : Ledger} {c : Claims} {ttl : Span} {h₀ h : List Made} {q : Option (Program Decision)}

/-- An exchange comes to a call, and goes on from each of its answers. -/
theorem Trail.of_call {x : Call} {next : x.Answer → Program Decision}
    (leads : Program.Leads (some (.call x next)) h q) (stage : Stage l c ttl h₀ x)
    (onward : ∀ a rest, Program.Leads (some (next a)) rest q →
      Trail l c ttl (h₀ ++ [⟨x, some (.ok a)⟩] ++ rest) q) :
    Trail l c ttl (h₀ ++ h) q := by
  rcases Program.Leads.call_iff.mp leads with ⟨rfl, rfl⟩ | ⟨reply, rest, rfl, further⟩
  · simpa using Trail.calls stage
  match reply with
  | some (.ok a) => simpa using onward a rest further
  | some (.error f) =>
      obtain ⟨rfl, rfl⟩ := Program.Leads.fail_iff.mp further
      exact .failed (.reply (x := x) (by simp))
  | none =>
      obtain ⟨rfl, rfl⟩ := Program.Leads.none_iff.mp further
      exact .lost

private theorem trail_pure {d : Decision} (leads : Program.Leads (some (.pure d)) h q)
    (verdict : Verdict l c ttl h₀ d) : Trail l c ttl (h₀ ++ h) q := by
  obtain ⟨rfl, rfl⟩ := Program.Leads.pure_iff.mp leads
  simpa using Trail.answered verdict

private theorem trail_fail {f : Failure} (leads : Program.Leads (some (.fail f)) h q)
    (fault : Fault l c h₀ f) : Trail l c ttl (h₀ ++ h) q := by
  obtain ⟨rfl, rfl⟩ := Program.Leads.fail_iff.mp leads
  simpa using Trail.failed fault

theorem trail_escalate (overused : Overused (l.key c.tokenId) h₀)
    (leads : Program.Leads (some (escalate l c ttl)) h q) : Trail l c ttl (h₀ ++ h) q := by
  refine Trail.of_call leads (.lock overused) fun _ rest leads => ?_
  refine Trail.of_call leads (.invalidate (overused.append _)) fun _ rest leads => ?_
  exact trail_pure leads (.replay ((overused.append _).append _) (heard_last _ _ _))

/-- An increment that leads to no positive counter is a failure, one below the floor is
recorded, and any other finds a blacklisted token. -/
theorem marked_some (key : String) (v : SignedWord) :
    (blacklistFloor.toInt ≤ v.toInt ∧ Ledger.marked key (some v) = .ok .blacklisted) ∨
    (0 < v.toInt ∧ v.toInt < blacklistFloor.toInt ∧
      Ledger.marked key (some v) = .ok (.recorded v)) ∨
    (v.toInt ≤ 0 ∧ ∃ e, Ledger.marked key (some v) = .error e) := by
  have floor := toInt_blacklistFloor
  by_cases high : blacklistFloor.toInt ≤ v.toInt
  · exact .inl ⟨high, by simp [Ledger.marked, Ledger.interpret, high]⟩
  by_cases one : v.toInt = 1
  · have below : ¬ blacklistFloor.toInt ≤ 1 := by decide
    exact .inr (.inl ⟨by omega, by omega, by simp [Ledger.marked, Ledger.interpret, one, below]⟩)
  by_cases more : 1 < v.toInt
  · exact .inr (.inl ⟨by omega, by omega,
      by simp [Ledger.marked, Ledger.interpret, high, one, more]⟩)
  · exact .inr (.inr ⟨by omega, _, by simp [Ledger.marked, Ledger.interpret, high, one, more]; rfl⟩)

/-- A counter of one is fresh, one above is too high, and any other is a failure. -/
theorem judge_cases (key : String) (v : SignedWord) :
    (1 < v.toInt ∧ ∃ uses, Ledger.judge key v = .ok (.tooManyUses uses)) ∨
    (v.toInt = 1 ∧ Ledger.judge key v = .ok .fresh) ∨
    (v.toInt ≤ 0 ∧ ∃ e, Ledger.judge key v = .error e) := by
  have floor := toInt_blacklistFloor
  by_cases high : blacklistFloor.toInt ≤ v.toInt
  · exact .inl ⟨by omega, v, by simp [Ledger.judge, Ledger.interpret, high]⟩
  by_cases one : v.toInt = 1
  · have below : ¬ blacklistFloor.toInt ≤ 1 := by decide
    exact .inr (.inl ⟨one, by simp [Ledger.judge, Ledger.interpret, one, below]⟩)
  by_cases more : 1 < v.toInt
  · exact .inl ⟨more, v, by simp [Ledger.judge, Ledger.interpret, high, one, more]⟩
  · exact .inr (.inr ⟨by omega, _, by simp [Ledger.judge, Ledger.interpret, high, one, more]; rfl⟩)

/-- What an exchange does once its use is counted. -/
def conclude (l : Ledger) (c : Claims) (ttl : Span) (uses : Option SignedWord) :
    Program Decision :=
  match Ledger.marked (l.key c.tokenId) uses with
  | .error e => .fail (.storage e)
  | .ok .blacklisted => .pure (.denied .blacklisted)
  | .ok (.recorded uses) => if uses.toInt = 2 then .pure .granted else escalate l c ttl

theorem claim_eq : claim l c ttl = .call (.increment (l.key c.tokenId)) (conclude l c ttl) := by
  show Program.call _ _ = _
  congr 1
  funext uses
  show (Program.ofStore (Ledger.marked (l.key c.tokenId) uses)).bind _ = _
  unfold conclude
  cases Ledger.marked (l.key c.tokenId) uses with
  | error => rfl
  | ok m => cases m <;> rfl

theorem conclude_two {v : SignedWord} (two : v.toInt = 2) :
    conclude l c ttl (some v) = .pure .granted := by
  have floor := toInt_blacklistFloor
  rcases marked_some (l.key c.tokenId) v with ⟨high, _⟩ | ⟨_, _, same⟩ | ⟨low, _⟩
  · omega
  · simp [conclude, same, two]
  · omega

theorem conclude_high {v : SignedWord} (high : blacklistFloor.toInt ≤ v.toInt) :
    conclude l c ttl (some v) = .pure (.denied .blacklisted) := by
  have floor := toInt_blacklistFloor
  rcases marked_some (l.key c.tokenId) v with ⟨_, same⟩ | ⟨_, below, _⟩ | ⟨low, _⟩
  · simp [conclude, same]
  · omega
  · omega

/-- What an exchange does once it has heard the counter of the token. -/
def examine (l : Ledger) (c : Claims) (ttl : Span) (value : Option SignedWord) :
    Program Decision :=
  match Ledger.listed value with
  | .blacklisted => .pure (.denied .blacklisted)
  | .clear => checkUses l c ttl

theorem check_eq : check l c ttl = .call (.fetch (l.key c.tokenId)) (examine l c ttl) := rfl

theorem examine_high {v : SignedWord} (high : blacklistFloor.toInt ≤ v.toInt) :
    examine l c ttl (some v) = .pure (.denied .blacklisted) := by
  rw [examine, Ledger.listed, if_pos high]

theorem examine_low {v : SignedWord} (low : ¬ blacklistFloor.toInt ≤ v.toInt) :
    examine l c ttl (some v) = checkUses l c ttl := by
  rw [examine, Ledger.listed, if_neg low]

theorem trail_claim (recorded : Recorded (l.key c.tokenId) h₀)
    (leads : Program.Leads (some (claim l c ttl)) h q) : Trail l c ttl (h₀ ++ h) q := by
  rw [claim_eq] at leads
  refine Trail.of_call leads (.claim recorded) fun uses rest leads => ?_
  have heard := heard_last h₀ (.increment (l.key c.tokenId)) uses
  cases uses with
  | none => exact trail_fail leads (.unmarked _ heard)
  | some v =>
      rcases marked_some (l.key c.tokenId) v with ⟨high, same⟩ | ⟨pos, _, same⟩ | ⟨low, e, same⟩
      · rw [conclude_high high] at leads
        exact trail_pure leads (.blacklisted (.inr heard) high)
      · by_cases two : v.toInt = 2
        · rw [conclude_two two] at leads
          exact trail_pure leads (.granted heard two)
        · simp only [conclude, same, if_neg two] at leads
          exact trail_escalate (.inr ⟨v, heard, pos, two⟩) leads
      · simp only [conclude, same] at leads
        exact trail_fail leads (.count _ (.inr heard) low)

theorem trail_checkAccount (recorded : Recorded (l.key c.tokenId) h₀)
    (leads : Program.Leads (some (checkAccount l c ttl)) h q) : Trail l c ttl (h₀ ++ h) q := by
  refine Trail.of_call leads .version fun version rest leads => ?_
  have heard := heard_last h₀ (.currentVersion c.subject) version
  cases version with
  | none => exact trail_pure leads (.unknownAccount heard)
  | some current =>
      refine Trail.of_call leads .locked fun locked rest leads => ?_
      cases locked with
      | true => exact trail_pure leads (.accountLocked (heard_last _ _ _))
      | false =>
          change Program.Leads (some (if current ≠ c.version then .pure (.denied .staleVersion)
            else claim l c ttl)) rest q at leads
          by_cases same : current = c.version
          · rw [if_neg (not_not_intro same)] at leads
            exact trail_claim ((recorded.append _).append _) leads
          · rw [if_pos same] at leads
            exact trail_pure leads (.staleVersion (heard.append _) same)

/-- A counter that was fetched is judged, and the exchange goes on accordingly. -/
private theorem trail_judged {v : SignedWord} (heard : 1 < v.toInt ∨ v.toInt ≤ 0 →
      Heard h₀ (.fetch (l.key c.tokenId)) (some v)) (recorded : Recorded (l.key c.tokenId) h₀)
    (leads : Program.Leads (some ((Program.ofStore (Ledger.judge (l.key c.tokenId) v)).bind
      fun uses => match uses with
        | .tooManyUses _ => escalate l c ttl
        | .fresh => checkAccount l c ttl)) h q) : Trail l c ttl (h₀ ++ h) q := by
  rcases judge_cases (l.key c.tokenId) v with ⟨high, u, same⟩ | ⟨one, same⟩ | ⟨low, e, same⟩
  · rw [same] at leads
    exact trail_escalate (.inl ⟨v, heard (.inl high), high⟩) leads
  · rw [same] at leads
    exact trail_checkAccount recorded leads
  · rw [same] at leads
    exact trail_fail leads (.count _ (.inl (heard (.inr low))) low)

theorem trail_checkUses (leads : Program.Leads (some (checkUses l c ttl)) h q) :
    Trail l c ttl (h₀ ++ h) q := by
  refine Trail.of_call leads .fetch fun value rest leads => ?_
  have heard := heard_last h₀ (.fetch (l.key c.tokenId)) value
  cases value with
  | some v => exact trail_judged (fun _ => heard) (.inl ⟨v, heard⟩) leads
  | none =>
      refine Trail.of_call leads .record fun written rest leads => ?_
      have recorded := recorded_last (h₀ ++ [⟨.fetch (l.key c.tokenId), some (.ok none)⟩])
        (l.key c.tokenId) ttl written
      cases written with
      | true => exact trail_checkAccount recorded leads
      | false =>
          refine Trail.of_call leads .fetch fun value rest leads => ?_
          cases value with
          | some v => exact trail_judged (fun _ => heard_last _ _ _) (recorded.append _) leads
          | none =>
              -- A counter that is gone again is taken for one, so nothing was heard of it.
              refine trail_judged (v := 1) (fun odd => ?_) (recorded.append _) leads
              rcases odd with high | low
              · exact absurd high (by decide)
              · exact absurd low (by decide)

/-- What an exchange does next rests on what it has heard. -/
theorem trail_check (leads : Program.Leads (some (check l c ttl)) h q) : Trail l c ttl h q := by
  rw [check_eq] at leads
  have whole : Trail l c ttl ([] ++ h) q := by
    refine Trail.of_call leads .fetch fun value rest leads => ?_
    have heard := heard_last [] (.fetch (l.key c.tokenId)) value
    cases value with
    | none => exact trail_checkUses leads
    | some v =>
        by_cases high : blacklistFloor.toInt ≤ v.toInt
        · rw [examine_high high] at leads
          exact trail_pure leads (.blacklisted (.inl heard) high)
        · rw [examine_low high] at leads
          exact trail_checkUses leads
  simpa using whole

/-- An exchange begins with a fetch of the counter, and ends there if the token is
blacklisted. -/
theorem first_fetch {made : Made} (leads : Program.Leads (some (check l c ttl)) (made :: h) q) :
    ∃ reply : Option (Call.fetch (l.key c.tokenId)).Reply,
      made = ⟨.fetch (l.key c.tokenId), reply⟩ ∧
      ∀ v, reply = some (.ok (some v)) → blacklistFloor.toInt ≤ v.toInt →
        q = some (.pure (.denied .blacklisted)) := by
  rw [check_eq] at leads
  rcases Program.Leads.call_iff.mp leads with ⟨none, _⟩ | ⟨reply, rest, same, further⟩
  · cases none
  cases same
  refine ⟨reply, rfl, fun v shown high => ?_⟩
  subst shown
  simp only [Program.resume, examine_high high] at further
  exact (Program.Leads.pure_iff.mp further).2

/-- An exchange that begins with a blacklisted counter fetches it once and denies. -/
theorem blacklisted_at_once (leads : Program.Leads (some (check l c ttl)) h q)
    (high : ∀ reply, (⟨.fetch (l.key c.tokenId), reply⟩ : Made) ∈ h →
      ∃ v, reply = some (.ok (some v)) ∧ blacklistFloor.toInt ≤ v.toInt) :
    (h = [] ∧ ∃ next, q = some (.call (.fetch (l.key c.tokenId)) next)) ∨
      ∃ v, blacklistFloor.toInt ≤ v.toInt ∧
        h = [⟨.fetch (l.key c.tokenId), some (.ok (some v))⟩] ∧
        q = some (.pure (.denied .blacklisted)) := by
  rw [check_eq] at leads
  rcases Program.Leads.call_iff.mp leads with ⟨rfl, rfl⟩ | ⟨reply, rest, rfl, further⟩
  · exact .inl ⟨rfl, _, rfl⟩
  · obtain ⟨v, rfl, large⟩ := high reply List.mem_cons_self
    simp only [Program.resume, examine_high large] at further
    obtain ⟨rfl, rfl⟩ := Program.Leads.pure_iff.mp further
    exact .inr ⟨v, large, rfl, rfl⟩

section Granted

variable {d : Decision}

/-- An exchange that makes a call and comes to an answer has got one from the call. -/
theorem answered_call {x : Call} {next : x.Answer → Program Decision}
    (leads : Program.Leads (some (.call x next)) h (some (.pure d))) :
    ∃ a rest, h = ⟨x, some (.ok a)⟩ :: rest ∧
      Program.Leads (some (next a)) rest (some (.pure d)) := by
  rcases Program.Leads.call_iff.mp leads with ⟨_, same⟩ | ⟨reply, rest, rfl, further⟩
  · cases same
  match reply with
  | some (.ok a) => exact ⟨a, rest, rfl, further⟩
  | some (.error f) => cases (Program.Leads.fail_iff.mp further).2
  | none => cases (Program.Leads.none_iff.mp further).2

theorem not_granted_of_escalate
    (leads : Program.Leads (some (escalate l c ttl)) h (some (.pure .granted))) : False := by
  obtain ⟨_, _, _, locked⟩ := answered_call leads
  obtain ⟨_, _, _, ends⟩ := answered_call locked
  cases (Program.Leads.pure_iff.mp ends).2

theorem granted_claim
    (leads : Program.Leads (some (claim l c ttl)) h (some (.pure .granted))) :
    ∃ v : SignedWord, v.toInt = 2 ∧
      h = [⟨.increment (l.key c.tokenId), some (.ok (some v))⟩] := by
  rw [claim_eq] at leads
  obtain ⟨uses, rest, rfl, ends⟩ := answered_call leads
  cases uses with
  | none => cases (Program.Leads.fail_iff.mp ends).2
  | some v =>
      rcases marked_some (l.key c.tokenId) v with ⟨high, _⟩ | ⟨_, _, same⟩ | ⟨_, e, same⟩
      · rw [conclude_high high] at ends
        cases (Program.Leads.pure_iff.mp ends).2
      · by_cases two : v.toInt = 2
        · rw [conclude_two two] at ends
          obtain ⟨rfl, _⟩ := Program.Leads.pure_iff.mp ends
          exact ⟨v, two, rfl⟩
        · simp only [conclude, same, if_neg two] at ends
          exact (not_granted_of_escalate ends).elim
      · simp only [conclude, same] at ends
        cases (Program.Leads.fail_iff.mp ends).2

/-- The last three calls of an exchange that grants: it asks for the version of the account
and for its lock, and claims the token. -/
theorem granted_checkAccount
    (leads : Program.Leads (some (checkAccount l c ttl)) h (some (.pure .granted))) :
    ∃ v : SignedWord, v.toInt = 2 ∧
      h = [⟨.currentVersion c.subject, some (.ok (some c.version))⟩,
        ⟨.isLocked c.subject, some (.ok false)⟩,
        ⟨.increment (l.key c.tokenId), some (.ok (some v))⟩] := by
  obtain ⟨version, rest, rfl, locks⟩ := answered_call leads
  cases version with
  | none => cases (Program.Leads.pure_iff.mp locks).2
  | some current =>
      obtain ⟨locked, rest, rfl, ends⟩ := answered_call locks
      cases locked with
      | true => cases (Program.Leads.pure_iff.mp ends).2
      | false =>
          change Program.Leads (some (if current ≠ c.version then .pure (.denied .staleVersion)
            else claim l c ttl)) rest _ at ends
          by_cases same : current = c.version
          · rw [if_neg (not_not_intro same)] at ends
            obtain ⟨v, two, rfl⟩ := granted_claim ends
            subst same
            exact ⟨v, two, rfl⟩
          · rw [if_pos same] at ends
            cases (Program.Leads.pure_iff.mp ends).2

private theorem granted_judged {v : SignedWord}
    (leads : Program.Leads (some ((Program.ofStore (Ledger.judge (l.key c.tokenId) v)).bind
      fun uses => match uses with
        | .tooManyUses _ => escalate l c ttl
        | .fresh => checkAccount l c ttl)) h (some (.pure .granted))) :
    Program.Leads (some (checkAccount l c ttl)) h (some (.pure .granted)) := by
  rcases judge_cases (l.key c.tokenId) v with ⟨_, u, same⟩ | ⟨_, same⟩ | ⟨_, e, same⟩
  · rw [same] at leads
    exact (not_granted_of_escalate leads).elim
  · rw [same] at leads
    exact leads
  · rw [same] at leads
    cases (Program.Leads.fail_iff.mp leads).2

theorem granted_checkUses
    (leads : Program.Leads (some (checkUses l c ttl)) h (some (.pure .granted))) :
    ∃ first rest, h = first ++ rest ∧
      Program.Leads (some (checkAccount l c ttl)) rest (some (.pure .granted)) := by
  obtain ⟨value, rest, rfl, judged⟩ := answered_call leads
  cases value with
  | some v => exact ⟨[_], rest, rfl, granted_judged judged⟩
  | none =>
      obtain ⟨written, rest, rfl, recorded⟩ := answered_call judged
      cases written with
      | true => exact ⟨[_, _], rest, rfl, recorded⟩
      | false =>
          obtain ⟨value, rest, rfl, again⟩ := answered_call recorded
          exact ⟨[_, _, _], rest, rfl, granted_judged again⟩

/-- An exchange that grants has checked the account last. -/
theorem granted_check (leads : Program.Leads (some (check l c ttl)) h (some (.pure .granted))) :
    ∃ first rest, h = first ++ rest ∧
      Program.Leads (some (checkAccount l c ttl)) rest (some (.pure .granted)) := by
  rw [check_eq] at leads
  obtain ⟨value, rest, rfl, ends⟩ := answered_call leads
  unfold examine at ends
  split at ends
  · cases (Program.Leads.pure_iff.mp ends).2
  · obtain ⟨first, rest, rfl, account⟩ := granted_checkUses ends
    exact ⟨_ :: first, rest, rfl, account⟩

end Granted

/-- The increment of a key has led to a counter of that kind. -/
inductive Counted (key : String) (kind : SignedWord → Prop) : (x : Call) → x.Answer → Prop
  | intro {v : SignedWord} (h : kind v) : Counted key kind (.increment key) (some v)

section Forces

variable {kind : SignedWord → Prop} {d : Decision}

private theorem forces_escalate :
    (escalate l c ttl).Forces (Counted (l.key c.tokenId) kind) d :=
  .skip (fun _ => nofun) fun _ => .skip (fun _ => nofun) fun _ => trivial

private theorem forces_claim
    (ends : ∀ v, kind v → conclude l c ttl (some v) = .pure d) :
    (claim l c ttl).Forces (Counted (l.key c.tokenId) kind) d := by
  rw [claim_eq]
  intro uses
  refine ⟨fun shown => ?_, ?_⟩
  · cases shown with
    | intro h => exact ends _ h
  · unfold conclude
    split
    · trivial
    · trivial
    · split
      · trivial
      · exact forces_escalate

private theorem forces_checkAccount
    (ends : ∀ v, kind v → conclude l c ttl (some v) = .pure d) :
    (checkAccount l c ttl).Forces (Counted (l.key c.tokenId) kind) d := by
  refine .skip (fun _ => nofun) fun version => ?_
  cases version with
  | none => trivial
  | some current =>
      refine .skip (fun _ => nofun) fun locked => ?_
      cases locked with
      | true => trivial
      | false =>
          show Program.Forces _ _ (if current ≠ c.version then _ else claim l c ttl)
          split
          · trivial
          · exact forces_claim ends

private theorem forces_judged {v : SignedWord}
    (ends : ∀ v, kind v → conclude l c ttl (some v) = .pure d) :
    ((Program.ofStore (Ledger.judge (l.key c.tokenId) v)).bind fun uses => match uses with
      | .tooManyUses _ => escalate l c ttl
      | .fresh => checkAccount l c ttl).Forces (Counted (l.key c.tokenId) kind) d := by
  cases Ledger.judge (l.key c.tokenId) v with
  | error => trivial
  | ok uses =>
      cases uses with
      | fresh => exact forces_checkAccount ends
      | tooManyUses => exact forces_escalate

theorem forces_check (ends : ∀ v, kind v → conclude l c ttl (some v) = .pure d) :
    (check l c ttl).Forces (Counted (l.key c.tokenId) kind) d := by
  have uses : (checkUses l c ttl).Forces (Counted (l.key c.tokenId) kind) d := by
    refine .skip (fun _ => nofun) fun value => ?_
    cases value with
    | some v => exact forces_judged ends
    | none =>
        refine .skip (fun _ => nofun) fun written => ?_
        cases written with
        | true => exact forces_checkAccount ends
        | false => exact .skip (fun _ => nofun) fun value => forces_judged ends
  rw [check_eq]
  refine .skip (fun _ => nofun) fun value => ?_
  unfold examine
  split
  · trivial
  · exact uses

end Forces

/-- An exchange whose increment led to two grants. -/
theorem granted_of_two {v : SignedWord} (leads : Program.Leads (some (check l c ttl)) h q)
    (heard : Heard h (.increment (l.key c.tokenId)) (some v)) (two : v.toInt = 2) :
    q = some (.pure .granted) := by
  have forces : (check l c ttl).Forces (Counted (l.key c.tokenId) fun v => v.toInt = 2) .granted :=
    forces_check fun _ two => conclude_two two
  exact Program.Forces.of_leads leads forces heard (.intro two)

/-- An exchange whose increment found a blacklisted token denies. -/
theorem blacklisted_of_high {v : SignedWord} (leads : Program.Leads (some (check l c ttl)) h q)
    (heard : Heard h (.increment (l.key c.tokenId)) (some v))
    (high : blacklistFloor.toInt ≤ v.toInt) : q = some (.pure (.denied .blacklisted)) := by
  have forces : (check l c ttl).Forces
      (Counted (l.key c.tokenId) fun v => blacklistFloor.toInt ≤ v.toInt) (.denied .blacklisted) :=
    forces_check fun _ high => conclude_high high
  exact Program.Forces.of_leads leads forces heard (.intro high)

end Exchange

end RequestGuard
