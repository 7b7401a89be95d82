import RequestGuard.Proofs.Traffic.Accounts
import RequestGuard.Proofs.Traffic.Origin

/-!
# What moves a counter beyond one

A counter in a store in memory is positive. It goes beyond one for two reasons only: a
flight has claimed the token, or a logout has blacklisted it. An escalation blacklists as
well, but it comes after a counter beyond one. `Accounted` is the invariant that every such
counter, be it in the store or in a reply, has one of the two reasons in the log. It holds
whatever the clock shows, as long as nobody uses the ledger on the token but the gate.
-/

namespace RequestGuard

namespace Exchange

/-- A history shows an overused token by one of its replies. -/
theorem overused_iff {key : String} {h : List Made} :
    Overused key h ↔ ∃ made ∈ h, Overused key [made] := by
  constructor
  · rintro (⟨v, heard, high⟩ | ⟨v, heard, high⟩)
    · exact ⟨_, heard, .inl ⟨v, List.mem_singleton_self _, high⟩⟩
    · exact ⟨_, heard, .inr ⟨v, List.mem_singleton_self _, high⟩⟩
  · rintro ⟨made, member, ⟨v, heard, high⟩ | ⟨v, heard, high⟩⟩
    · cases List.mem_singleton.mp heard
      exact .inl ⟨v, member, high⟩
    · cases List.mem_singleton.mp heard
      exact .inr ⟨v, member, high⟩

end Exchange

/-- A reply shows an overused token only if the store had a counter beyond one. -/
theorem Store.Turn.high_of_overused {now : Instant} {s s' : Store} {x : Call}
    {reply : Option x.Reply} {key : String} (turn : s.Turn now x reply s')
    (positive : ∀ e, s.entries.get? key = some e → 0 < e.value.toInt)
    (overused : Exchange.Overused key [⟨x, reply⟩]) :
    ∃ e, s.entries.get? key = some e ∧ 1 < e.value.toInt := by
  rcases overused with ⟨v, heard, high⟩ | ⟨v, heard, _, other⟩
  · cases List.mem_singleton.mp heard
    obtain ⟨e, live, same⟩ := turn.live_of_fetch
    subst same
    exact ⟨e, (Entries.live?_eq_some_iff.mp live).1, high⟩
  · cases List.mem_singleton.mp heard
    cases turn with
    | @increment _ e _ _ live next took =>
        have got := (Entries.live?_eq_some_iff.mp live).1
        have one := SignedWord.toInt_of_succ? next
        have before := positive e got
        exact ⟨e, got, by omega⟩

namespace Traffic

/-- The write by which a logout blacklists a token. -/
structure LoggedOut (l : Ledger) (id : TokenId) (log : List Event) (f : Nat) : Prop where
  begun : ∃ t c, Event.begun t f (.logout c) ∈ log
  revoked : Revoked l id log f

/-- A token was claimed or logged out. -/
def Spent (l : Ledger) (id : TokenId) (log : List Event) : Prop :=
  (∃ f, Claimed l id log f) ∨ ∃ f, LoggedOut l id log f

/-- Nothing but presentations and logouts is about the token. -/
structure Gated (l : Ledger) (id : TokenId) (w : Traffic) : Prop where
  sound : Sound l w
  gate : ∀ t n o, Event.begun t n o ∈ w.log → o.tokenId = id → o.AtGate

/-- Every counter beyond one has its reason in the log. -/
structure Accounted (l : Ledger) (id : TokenId) (w : Traffic) : Prop where
  positive : ∀ e, w.services.store.entries.get? (l.key id) = some e → 0 < e.value.toInt
  high : ∀ e, w.services.store.entries.get? (l.key id) = some e → 1 < e.value.toInt →
    Spent l id w.log
  shown : ∀ t n made, Event.called t n made ∈ w.log → Exchange.Overused (l.key id) [made] →
    Spent l id w.log

variable {l : Ledger} {id : TokenId} {expiry : Instant} {allowed : Traffic → Action → Prop}
  {w v : Traffic} {log : List Event}

theorem Claimed.mono {log' : List Event} {f : Nat} (h : Claimed l id log f) (all : log ⊆ log') :
    Claimed l id log' f := by
  obtain ⟨t, value, called, two⟩ := h
  exact ⟨t, value, all called, two⟩

theorem LoggedOut.mono {log' : List Event} {f : Nat} (h : LoggedOut l id log f)
    (all : log ⊆ log') : LoggedOut l id log' f := by
  obtain ⟨⟨s, c, begun⟩, t, value, ttl, called⟩ := h
  exact ⟨⟨s, c, all begun⟩, t, value, ttl, all called⟩

theorem Spent.append (h : Spent l id log) (later : List Event) : Spent l id (log ++ later) := by
  have all : log ⊆ log ++ later := List.subset_append_left _ _
  rcases h with ⟨f, claimed⟩ | ⟨f, loggedOut⟩
  · exact .inl ⟨f, claimed.mono all⟩
  · exact .inr ⟨f, loggedOut.mono all⟩

theorem accounted_start (now : Instant) (directory : Directory) :
    Accounted l id (start now ⟨.volatile .empty, directory⟩) where
  positive := by
    intro e got
    cases got
  high := by
    intro e got
    cases got
  shown := by
    intro t n made called
    cases called

theorem Guarded.gated (g : Guarded l id expiry w) : Gated l id w :=
  ⟨g.sound, fun t n o begun own => ((g.begun t n o begun).2 own).atGate⟩

theorem gated_start (now : Instant) (services : Services) : Gated l id (start now services) where
  sound := sound_start now services
  gate := by
    intro t n o begun
    cases begun

theorem Gated.step {a : Action} (g : Gated l id w)
    (gate : ∀ n o, a = .begin n o → o.tokenId = id → o.AtGate) (step : Step l w a v) :
    Gated l id v := by
  refine ⟨g.sound.step step, fun t m p begun => ?_⟩
  cases step with
  | wait | nothing => exact g.gate t m p begun
  | changed => exact g.gate t m p (by simpa using begun)
  | called => exact g.gate t m p (by simpa [call_log] using begun)
  | @begun n o new =>
      rcases List.mem_append.mp begun with old | latest
      · exact g.gate t m p old
      · cases List.mem_singleton.mp latest
        exact gate m p rfl

theorem Gated.reaches (g : Gated l id w) (volatile : w.services.store.isDurable = false)
    (r : Reaches l allowed w v)
    (gate : ∀ u n o, allowed u (.begin n o) → o.tokenId = id → o.AtGate) : Gated l id v := by
  refine r.induct_volatile volatile g ?_
  intro u a _ ok gated
  exact gated.step (fun n o same => gate u n o (same ▸ ok)) (act_step a)

namespace Accounted

/-- A reply shows an overused token only if it was spent. -/
theorem shown_call {now : Instant} {x : Call} {reply : Option x.Reply} {s' : Store}
    (a : Accounted l id w) (turn : w.services.store.Turn now x reply s')
    (overused : Exchange.Overused (l.key id) [⟨x, reply⟩]) : Spent l id w.log := by
  obtain ⟨e, got, high⟩ := turn.high_of_overused a.positive overused
  exact a.high e got high

/-- Whoever blacklists a token has a reason: it is a logout, or it has found the token
overused. -/
theorem spent_of_insert {n : Nat} {o : Operation} {value : SignedWord} {ttl : Span}
    {next : Unit → Program o.Answer} (a : Accounted l id w) (g : Gated l id w)
    (coming : w.flights.get? n = some ⟨o, some (.call (.insert (l.key id) value ttl) next)⟩)
    (t : Instant) : Spent l id
      (w.log ++ [.called t n ⟨.insert (l.key id) value ttl, some (.ok ())⟩]) := by
  obtain ⟨start, begun, leads⟩ := g.sound.history n _ coming
  have own : o.tokenId = id := (l.key_injective (Operation.call_key leads rfl)).symm
  cases o with
  | logout c =>
      refine .inr ⟨n, ⟨start, c, List.mem_append_left _ begun⟩, t, value, ttl, ?_⟩
      exact List.mem_append_right _ (List.mem_singleton_self _)
  | refresh c =>
      cases own
      cases (Operation.stage_of_leads leads).2 with
      | invalidate overused =>
          obtain ⟨made, member, reason⟩ := Exchange.overused_iff.mp overused
          obtain ⟨t', called⟩ := mem_callsOf.mp member
          exact (a.shown t' n made called reason).append _
  | ledger => exact (g.gate start n _ begun own).elim

/-- A call of a flight leaves no counter without its reason. -/
theorem entry_call {n : Nat} {o : Operation} {x : Call} {next : x.Answer → Program o.Answer}
    (a : Accounted l id w) (g : Gated l id w)
    (coming : w.flights.get? n = some ⟨o, some (.call x next)⟩) {reply : Option x.Reply} {e : Entry}
    (becomes : w.services.store.Becomes w.now (l.key id) ⟨x, reply⟩ e) :
    0 < e.value.toInt ∧
      (1 < e.value.toInt → Spent l id (w.log ++ [.called w.now n ⟨x, reply⟩])) := by
  obtain ⟨t, begun, leads⟩ := g.sound.history n _ coming
  -- A call about the key comes from the gate.
  have gate : x.key? = some (l.key id) → o.AtGate := fun about =>
    g.gate t n o begun (l.key_injective (Operation.call_key leads about)).symm
  obtain ⟨made, same⟩ : ∃ made : Made, made = ⟨x, reply⟩ := ⟨_, rfl⟩
  rw [← same] at becomes ⊢
  cases becomes with
  | kept old bare => exact ⟨a.positive e old, fun high => (a.high e old high).append _⟩
  | @counted before live incremented next lives =>
      have got := (Entries.live?_eq_some_iff.mp live).1
      have positive := a.positive before got
      refine ⟨by omega, fun _ => ?_⟩
      by_cases one : before.value.toInt = 1
      · refine .inl ⟨n, w.now, e.value, ?_, by omega⟩
        rw [incremented]
        exact List.mem_append_right _ (List.mem_singleton_self _)
      · exact (a.high before got (by omega)).append _
  | recorded written ends entry =>
      subst entry written
      cases same
      obtain rfl := Operation.record_atGate (gate rfl) leads
      exact ⟨Int.zero_lt_one, fun high => absurd high (Int.lt_irrefl 1)⟩
  | replaced written ends entry =>
      subst entry written
      cases same
      obtain rfl := Operation.insert_atGate (gate rfl) leads
      have positive : 0 < blacklistFloor.toInt := by decide
      exact ⟨positive, fun _ => a.spent_of_insert g coming w.now⟩

theorem step {action : Action} (a : Accounted l id w) (g : Gated l id w)
    (volatile : w.services.store.isDurable = false) (step : Step l w action v) :
    Accounted l id v := by
  -- An event that is no call gives no new reasons.
  have still : ∀ {event : Event}, (∀ t n made, event ≠ .called t n made) →
      ∀ t n made, Event.called t n made ∈ w.log ++ [event] →
        Exchange.Overused (l.key id) [made] → Spent l id (w.log ++ [event]) := by
    intro event silent t n made called overused
    rcases List.mem_append.mp called with old | new
    · exact (a.shown t n made old overused).append _
    · exact absurd (List.mem_singleton.mp new).symm (silent t n made)
  cases step with
  | wait | nothing => exact ⟨a.positive, a.high, a.shown⟩
  | begun | changed =>
      exact ⟨a.positive, fun e got high => (a.high e got high).append _,
        still fun _ _ _ => Event.noConfusion⟩
  | @called n fault o x next coming =>
      have turn : w.services.store.Turn w.now x (w.services.perform w.now fault x).1
          (w.call n fault o x next).services.store :=
        (Services.perform_turn (Store.placed_of_volatile volatile) x).1
      have entry : ∀ e, (w.call n fault o x next).services.store.entries.get? (l.key id) = some e →
          _ := fun e got => a.entry_call g coming (turn.becomes volatile got)
      refine ⟨fun e got => (entry e got).1, fun e got => (entry e got).2,
        fun t m made called overused => ?_⟩
      rcases List.mem_append.mp called with old | new
      · exact (a.shown t m made old overused).append _
      · cases List.mem_singleton.mp new
        exact (a.shown_call turn overused).append _

theorem reaches (a : Accounted l id w) (g : Gated l id w)
    (volatile : w.services.store.isDurable = false) (r : Reaches l allowed w v)
    (gate : ∀ u n o, allowed u (.begin n o) → o.tokenId = id → o.AtGate) :
    Accounted l id v := by
  refine r.induct_volatile volatile a ?_
  intro u action before _ accounted
  exact accounted.step (g.reaches volatile before gate) (before.volatile volatile)
    (act_step action)

end Accounted

end Traffic

end RequestGuard
