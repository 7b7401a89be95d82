import RequestGuard.Proofs.Exchange
import RequestGuard.Proofs.Store.Entries
import RequestGuard.Proofs.Traffic.Basic

/-!
# The calls of operations

Which calls an operation may make, whatever it hears. It calls the store under the key of
its own token only. A presentation and a logout write so that a counter of their token
that lives up to its expiry is kept.
-/

namespace RequestGuard

/-- The key that a call of the store is about. -/
def Call.key? : Call → Option String
  | .fetch key => some key
  | .insert key _ _ => some key
  | .insertIfAbsent key _ _ => some key
  | .increment key => some key
  | .currentVersion _ | .isLocked _ | .lock _ => none

def Event.key? : Event → Option String
  | .called _ _ made => made.call.key?
  | .begun _ _ _ | .changed _ _ _ => none

theorem Call.respects_of_key? {x : Call} {key : String} {t now : Instant} (h : x.key? ≠ some key) :
    x.Respects key t now := by
  cases x with
  | insert k value ttl => exact fun same => absurd (congrArg some same) h
  | insertIfAbsent k value ttl => exact fun same => absurd (congrArg some same) h
  | fetch | increment | currentVersion | isLocked | lock => trivial

theorem Entries.Writes.key? {now : Instant} {es : Entries} {c : Call} {key : String} {e : Entry}
    (w : Entries.Writes now es c key e) : c.key? = some key := by
  cases w with
  | insert | insertIfAbsent | increment => rfl

/-- Two tokens never share a key. -/
theorem Ledger.key_injective (l : Ledger) {i j : TokenId} (h : l.key i = l.key j) : i = j := by
  have same : i.text = j.text := by
    have := congrArg String.toList h
    simp only [Ledger.key, String.toList_append, List.append_cancel_left_eq] at this
    exact String.toList_injective this
  cases i
  cases j
  cases same
  rfl

namespace Operation

/-- Whether an operation is one of the gate: a presentation or a logout. -/
def AtGate : Operation → Prop
  | .refresh _ | .logout _ => True
  | .ledger _ _ => False

theorem Presents.atGate {expiry : Instant} {o : Operation} (presents : o.Presents expiry) :
    o.AtGate := by
  cases o with
  | refresh | logout => trivial
  | ledger => cases presents

variable {l : Ledger} {t now : Instant} {h : List Made}

/-- Every call of an operation of the ledger is about the key of its token. -/
theorem uses_ledger (id : TokenId) (step : Scenario.LedgerStep) :
    ((Operation.ledger id step).program l t).Uses fun x => x.key? = some (l.key id) := by
  cases step with
  | recordFirstUse ttl => exact ⟨rfl, fun _ => trivial⟩
  | invalidate ttl => exact ⟨rfl, fun _ => trivial⟩
  | checkBlacklist => exact ⟨rfl, fun _ => trivial⟩
  | markUsed => exact ⟨rfl, fun _ => .ofStore _⟩
  | state => exact ⟨rfl, fun _ => .ofStore _⟩
  | checkUseCount ttl =>
      refine ⟨rfl, fun value => ?_⟩
      cases value with
      | some v => exact .ofStore _
      | none =>
          refine ⟨rfl, fun written => ?_⟩
          cases written with
          | true => trivial
          | false => exact ⟨rfl, fun _ => .ofStore _⟩

/-- Every operation of the ledger begins with a call. -/
theorem ledger_calls (l : Ledger) (id : TokenId) (step : Scenario.LedgerStep)
    (t : Instant) : ∃ c next, (Operation.ledger id step).program l t = .call c next := by
  cases step with
  | recordFirstUse | checkUseCount | invalidate | markUsed | checkBlacklist | state =>
      exact ⟨_, _, rfl⟩

/-- A presentation of an expired token is denied at once, and every other is checked. -/
theorem decide_cases {c : Claims} {q : Option (Program Decision)}
    (leads : Program.Leads (some (Exchange.decide l c t)) h q) :
    (c.expiresAt ≤ t ∧ h = [] ∧ q = some (.pure (.denied .expired))) ∨
      (t < c.expiresAt ∧
        Program.Leads (some (Exchange.check l c (c.expiresAt.since t))) h q) := by
  unfold Exchange.decide at leads
  cases left : c.remaining? t with
  | none =>
      rw [left] at leads
      exact .inl ⟨(c.remaining?_eq_none_iff t).mp left, Program.Leads.pure_iff.mp leads⟩
  | some ttl =>
      rw [left] at leads
      obtain ⟨early, rfl⟩ := (c.remaining?_eq_some_iff t ttl).mp left
      exact .inr ⟨early, leads⟩

/-- A presentation that makes a call rests on its own history. -/
theorem stage_of_leads {c : Claims} {x : Call} {next : x.Answer → Program Decision}
    (leads : Program.Leads (some (Exchange.decide l c t)) h (some (.call x next))) :
    t < c.expiresAt ∧ Exchange.Stage l c (c.expiresAt.since t) h x := by
  rcases decide_cases leads with ⟨_, _, ends⟩ | ⟨early, leads⟩
  · cases ends
  · cases Exchange.trail_check leads with
    | calls stage => exact ⟨early, stage⟩

/-- A presentation that was answered rests on its own history, unless it came too late. -/
theorem verdict_of_leads {c : Claims} {d : Decision}
    (leads : Program.Leads (some (Exchange.decide l c t)) h (some (.pure d)))
    (living : d ≠ .denied .expired) : Exchange.Verdict l c (c.expiresAt.since t) h d := by
  rcases decide_cases leads with ⟨_, _, ends⟩ | ⟨_, leads⟩
  · cases ends
    exact absurd rfl living
  · cases Exchange.trail_check leads with
    | answered verdict => exact verdict

theorem call_of_logout {c : Claims} {x : Call} {next : x.Answer → Program Unit}
    (leads : Program.Leads (some (l.logout c t)) h (some (.call x next))) :
    t < c.expiresAt ∧ x = .insert (l.key c.tokenId) blacklistFloor (c.expiresAt.since t) := by
  unfold Ledger.logout at leads
  cases left : c.remaining? t with
  | none =>
      rw [left] at leads
      cases (Program.Leads.pure_iff.mp leads).2
  | some ttl =>
      rw [left] at leads
      obtain ⟨early, rfl⟩ := (c.remaining?_eq_some_iff t ttl).mp left
      have uses : (l.invalidate c.tokenId (c.expiresAt.since t)).Uses
          (· = .insert (l.key c.tokenId) blacklistFloor (c.expiresAt.since t)) :=
        ⟨rfl, fun _ => trivial⟩
      exact ⟨early, (Program.Uses.of_leads leads uses).1⟩

/-- A logout of a token that has not expired has blacklisted it. -/
theorem heard_of_logout {c : Claims}
    (leads : Program.Leads (some (l.logout c t)) h (some (.pure ()))) (early : t < c.expiresAt) :
    Heard h (.insert (l.key c.tokenId) blacklistFloor (c.expiresAt.since t)) () := by
  rw [Ledger.logout, (c.remaining?_eq_some_iff t _).mpr ⟨early, rfl⟩] at leads
  rcases Program.Leads.call_iff.mp leads with ⟨_, ends⟩ | ⟨reply, rest, rfl, further⟩
  · cases ends
  · match reply with
    | some (.ok ()) => exact List.mem_cons_self
    | some (.error f) => cases (Program.Leads.fail_iff.mp further).2
    | none => cases (Program.Leads.none_iff.mp further).2

/-- An operation calls the store about its own token only. -/
theorem call_key {o : Operation} {x : Call} {next : x.Answer → Program o.Answer}
    (leads : Program.Leads (some (o.program l t)) h (some (.call x next))) {key : String}
    (about : x.key? = some key) : key = l.key o.tokenId := by
  cases o with
  | refresh c =>
      cases (stage_of_leads leads).2 with
      | fetch | record | claim | invalidate => exact (Option.some.inj about).symm
      | version | locked | lock => cases about
  | logout c =>
      obtain ⟨_, rfl⟩ := call_of_logout leads
      exact (Option.some.inj about).symm
  | ledger id step =>
      have own := (Program.Uses.of_leads leads (uses_ledger id step)).1
      exact Option.some.inj (about.symm.trans own)

/-- The calls that an operation has made are about its own token too. -/
theorem made_key {o : Operation} {q : Option (Program o.Answer)} {made : Made} {key : String}
    (leads : Program.Leads (some (o.program l t)) h q) (member : made ∈ h)
    (about : made.call.key? = some key) : key = l.key o.tokenId := by
  obtain ⟨before, after, rfl⟩ := List.append_of_mem member
  obtain ⟨next, leads, _⟩ := leads.split
  exact call_key leads about

/-- The gate records a token with a one only. -/
theorem record_atGate {o : Operation} {key : String} {value : SignedWord} {ttl : Span}
    {next : Bool → Program o.Answer} (gate : o.AtGate)
    (leads : Program.Leads (some (o.program l t)) h
      (some (.call (.insertIfAbsent key value ttl) next))) : value = 1 := by
  cases o with
  | refresh c =>
      cases (stage_of_leads leads).2 with
      | record => rfl
  | logout c => cases (call_of_logout leads).2
  | ledger => cases gate

/-- And it writes nothing else over a counter than the floor. -/
theorem insert_atGate {o : Operation} {key : String} {value : SignedWord} {ttl : Span}
    {next : Unit → Program o.Answer} (gate : o.AtGate)
    (leads : Program.Leads (some (o.program l t)) h (some (.call (.insert key value ttl) next))) :
    value = blacklistFloor := by
  cases o with
  | refresh c =>
      cases (stage_of_leads leads).2 with
      | invalidate => rfl
  | logout c =>
      cases (call_of_logout leads).2
      rfl
  | ledger => cases gate

/-- The calls of a presentation or logout keep a counter that lives up to the expiry of the
token. Time may have passed since it began, so that what it writes lives longer. -/
theorem call_respects {o : Operation} {x : Call} {next : x.Answer → Program o.Answer}
    {expiry : Instant} (leads : Program.Leads (some (o.program l t)) h (some (.call x next)))
    (presents : o.Presents expiry) (later : t ≤ now) : x.Respects (l.key o.tokenId) expiry now := by
  have long : ∀ {e : Instant}, e.nanos ≤ now.nanos + (e.since t).nanos := by
    intro e
    rw [Instant.le_iff] at later
    simp only [Instant.since]
    omega
  cases o with
  | refresh c =>
      cases presents
      cases (stage_of_leads leads).2 with
      | record | invalidate => exact fun _ => ⟨rfl, long⟩
      | fetch | claim | version | locked | lock => trivial
  | logout c =>
      cases presents
      obtain ⟨_, rfl⟩ := call_of_logout leads
      exact fun _ => ⟨rfl, long⟩
  | ledger => cases presents

end Operation

end RequestGuard
