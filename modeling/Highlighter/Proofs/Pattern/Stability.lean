import Highlighter.Proofs.Pattern.Search

/-!
# Searches that can be continued

A search tries one place after the other. Two things can make an attempt depend on where the search
began: the plan may ask for that place, and it may move the reported start of the match behind the
place of the attempt. A plan that does neither is local (`Plan.isLocal`). Its attempts come to the
same end in every search (`Plan.run_start`) and report a start that is not behind their place
(`Pattern.start_le_of_matchAt`). So a search further right finds what one further left has found, as
long as that lies ahead, and nothing where that one found nothing (`Pattern.stable_of_isLocal`).
-/

namespace Highlighter

namespace Plan

/-- A plan that neither asks where the search began nor moves the start of the match. -/
def isLocal : Plan → Bool
  | anchor a => a != .searchStart
  | seq a b => a.isLocal && b.isLocal
  | alt a b => a.isLocal && b.isLocal
  | option body _ => body.isLocal
  | star body _ _ => body.isLocal
  | counted body _ _ _ _ => body.isLocal
  | atomic body => body.isLocal
  | capture _ _ body => body.isLocal
  | ahead body => body.isLocal
  | notAhead body => body.isLocal
  | behind _ body => body.isLocal
  | notBehind _ body => body.isLocal
  | behindWithin _ lead _ _ body => lead.isLocal && body.isLocal
  | notBehindWithin _ lead _ _ body => lead.isLocal && body.isLocal
  | choice condition yes no => condition.isLocal && yes.isLocal && no.isLocal
  | absent body expr => body.isLocal && expr.isLocal
  | stopBefore body => body.isLocal
  | keep => false
  | _ => true

/-- A condition other than the start of the search does not depend on it. -/
lemma holds_start {a : Anchor} (h : a ≠ .searchStart) (m n : Nat) (c : Cursor) :
    a.holds m c = a.holds n c := by
  cases a with
  | searchStart => exact absurd rfl h
  | _ => rfl

/-- A local plan leads to the same ways wherever the search began. -/
lemma run_start {p : Plan} (h : p.isLocal = true) (s : Search) (n : Nat)
    (callee : Nat → Attempt.Walk) : p.run { s with start := n } callee = p.run s callee := by
  induction p with
  | anchor a =>
    have other : a ≠ .searchStart := by simpa [isLocal] using h
    funext t k
    simp only [run, holds_start other n s.start]
  | keep => cases h
  | seq a b iha ihb | alt a b iha ihb =>
    obtain ⟨ha, hb⟩ := Bool.and_eq_true_iff.1 h
    simp only [run, iha ha, ihb hb]
  | behindWithin _ lead _ _ body ihl ihb | notBehindWithin _ lead _ _ body ihl ihb =>
    obtain ⟨hl, hb⟩ := Bool.and_eq_true_iff.1 h
    simp only [run, ihl hl, ihb hb]
  | absent body expr ihb ihe =>
    obtain ⟨hb, he⟩ := Bool.and_eq_true_iff.1 h
    simp only [run, ihb hb, ihe he]
  | choice condition yes no ihc ihy ihn =>
    obtain ⟨h, hn⟩ := Bool.and_eq_true_iff.1 h
    obtain ⟨hc, hy⟩ := Bool.and_eq_true_iff.1 h
    simp only [run, ihc hc, ihy hy, ihn hn]
  | option body _ ih | star body _ _ ih | counted body _ _ _ _ ih | atomic body ih
  | capture _ _ body ih | ahead body ih | notAhead body ih | behind _ body ih | notBehind _ body ih
  | stopBefore body ih => simp only [run, ih h]
  | _ => rfl

end Plan

/-! ## The start of a match -/

namespace Attempt

variable {t u : Attempt} {k : Attempt → Outcome} {w : Walk}

/--
What a walk comes to is what its continuation comes to from an attempt whose start was not moved.
-/
def Keeps (w : Walk) : Prop :=
  ∀ t k u, w t k = .ok u → ∃ v, k v = .ok u ∧ v.kept = t.kept

/-- A walk that is not continued has not moved the start. -/
lemma Keeps.of_ok (h : Keeps w) (e : w t .ok = .ok u) : u.kept = t.kept := by
  obtain ⟨v, same, kept⟩ := h t .ok u e
  cases same
  exact kept

/-- Only the start of the attempt matters that a walk goes on from. -/
lemma Keeps.resume (h : Keeps w) {f : Failure} (e : w (t.resume f) k = .ok u) :
    ∃ v, k v = .ok u ∧ v.kept = t.kept := h (t.resume f) k u e

/-- Where another way succeeds, it was tried. -/
lemma of_retry {f : Failure} {way : Attempt → Outcome} (e : t.retry f way = .ok u) :
    way (t.resume f) = .ok u := by
  unfold retry at e
  split at e
  · cases e
  · exact e

/-- Of two ways one has succeeded. -/
lemma of_firstOf {a b : Attempt → Outcome} (e : t.firstOf a b = .ok u) :
    a t = .ok u ∨ ∃ f, b (t.resume f) = .ok u := by
  unfold firstOf at e
  cases first : a t with
  | ok v =>
    rw [first] at e
    exact .inl e
  | error f =>
    rw [first] at e
    exact .inr ⟨f, of_retry e⟩

/-- Where going to a place succeeds, going on from there does, with the start as it was. -/
lemma of_goTo {c : Option Cursor} (e : t.goTo c k = .ok u) :
    ∃ v, k v = .ok u ∧ v.kept = t.kept := by
  cases c with
  | none => cases e
  | some cursor => exact ⟨{ t with cursor }, e, rfl⟩

/-- Committing succeeds by going on from what was found. -/
lemma of_commit {restored : List Bool} {r : Outcome} (e : commit restored t r k = .ok u) :
    ∃ v, r = .ok v ∧ k v = .ok u := by
  cases r with
  | error f => cases e
  | ok v =>
    refine ⟨v, rfl, ?_⟩
    rw [commit] at e
    cases rest : k v with
    | ok x => rwa [rest] at e
    | error f =>
      rw [rest] at e
      cases e

/-- Refusing succeeds by going on in the absence of a match. -/
lemma of_refuse {restored : List Bool} {r : Outcome} (e : refuse restored t r k = .ok u) :
    ∃ f, k (t.resume f) = .ok u := by
  cases r with
  | error f => exact ⟨f, of_retry e⟩
  | ok v => cases e

/-- After a turn a loop is left, or it goes on. -/
lemma of_afterTurn {watch : Option (List Nat)} {v : Attempt} {leave stay : Attempt → Outcome}
    (e : afterTurn watch t v leave stay = .ok u) : leave v = .ok u ∨ stay v = .ok u := by
  unfold afterTurn at e
  split at e
  · exact .inr e
  · split at e
    · split at e
      · exact .inl e
      · exact .inr e
      · cases e
    · exact .inr e

/-- Where one of some places succeeds, going on from it does, with the start as it was. -/
lemma of_firstPlace {places : List Cursor} (e : firstPlace k places t = .ok u) :
    ∃ v, k v = .ok u ∧ v.kept = t.kept := by
  induction places generalizing t with
  | nil => cases e
  | cons c places ih =>
    cases places with
    | nil => exact ⟨_, e, rfl⟩
    | cons d places =>
      rw [firstPlace] at e
      · cases first : k { t with cursor := c } with
        | ok x =>
          rw [first] at e
          exact ⟨_, first.trans e, rfl⟩
        | error f =>
          rw [first] at e
          obtain ⟨v, e, kept⟩ := ih (of_retry e)
          exact ⟨v, e, kept⟩
      · exact List.cons_ne_nil d places

/-- Turns of a loop keep the start if each of them does. -/
lemma keeps_counted (body : Keeps w) (least : Nat) (greedy : Bool) (watch : Option (List Nat))
    (turns done : Nat) : Keeps (counted w least greedy watch turns done) := by
  induction turns generalizing done with
  | zero => exact fun t k u e => ⟨t, e, rfl⟩
  | succ turns ih =>
    intro t k u e
    -- one more turn leads to the end of the loop or to the turns behind it
    have again : ∀ f, (w (t.resume f) fun x => afterTurn watch (t.resume f) x k fun x =>
        counted w least greedy watch turns (done + 1) x k) = .ok u →
        ∃ v, k v = .ok u ∧ v.kept = t.kept := by
      intro f e
      obtain ⟨x, e, kept⟩ := body.resume e
      rcases of_afterTurn e with e | e
      · exact ⟨x, e, kept⟩
      · obtain ⟨y, e, kept'⟩ := ih (done + 1) x k u e
        exact ⟨y, e, kept'.trans kept⟩
    rw [counted] at e
    dsimp only at e
    split at e
    · exact again ⟨t.registers, t.retries⟩ e
    · split at e
      · rcases of_firstOf e with e | ⟨f, e⟩
        · exact again ⟨t.registers, t.retries⟩ e
        · exact ⟨_, e, rfl⟩
      · rcases of_firstOf e with e | ⟨f, e⟩
        · exact ⟨t, e, rfl⟩
        · exact again _ e

/-- Looking back does not move the start. -/
lemma kept_of_lookBack (body : Keeps w) {n : Nat} (e : lookBack w n t = .ok u) :
    u.kept = t.kept := by
  -- a way to the limit ends where it comes to it
  have here : ∀ t, w t atLimit = .ok u → u.kept = t.kept := by
    intro t e
    obtain ⟨v, e, kept⟩ := body _ _ _ e
    unfold atLimit at e
    split at e
    · cases e
      exact kept
    · cases e
  induction n generalizing t with
  | zero => exact here t e
  | succ n ih =>
    rw [lookBack] at e
    cases first : w t atLimit with
    | ok v =>
      rw [first] at e
      exact here t (first.trans e)
    | error f =>
      rw [first] at e
      dsimp only at e
      split at e
      · have e := of_retry e
        have kept := ih e
        exact kept
      · cases e

/-- Nor does looking back within bounds. -/
lemma kept_of_behindWithin {lead : Walk} (hl : Keeps lead) (body : Keeps w) {leadSize nearest : Nat}
    {farthest : Option Nat} (e : behindWithin lead w leadSize nearest farthest t = .ok u) :
    u.kept = t.kept := by
  unfold behindWithin at e
  split at e
  · cases e
  · next cursor _ =>
    cases first : lead { t with cursor } .ok with
    | error f =>
      rw [first] at e
      cases e
    | ok v =>
      have kept := hl.of_ok first
      rw [first] at e
      dsimp only at e
      split at e
      · cases e
      · split at e
        · next found =>
          cases e
          exact (kept_of_lookBack body found).trans kept
        · cases e

end Attempt

namespace Plan

open Attempt

variable {s : Search} {callee : Nat → Walk}

/-- A group keeps the start if its body does. -/
lemma keeps_capture {body : Plan} (h : Keeps (body.run s callee)) (group : Nat) (restored : Bool) :
    Keeps ((capture group restored body).run s callee) := by
  intro t k u e
  rw [run] at e
  dsimp only at e
  split at e
  · -- what a failure leaves behind is changed on the way out, a success is not
    split at e
    · next found =>
      cases e
      obtain ⟨v, e, kept⟩ := h _ _ _ found
      split at e
      · next found =>
        cases e
        exact ⟨_, found, kept⟩
      · cases e
    · cases e
  · obtain ⟨v, e, kept⟩ := h _ _ _ e
    exact ⟨_, e, kept⟩

/-- A local plan keeps the start, if the called groups do. -/
theorem keeps_run (calls : ∀ group, Keeps (callee group)) {p : Plan} (h : p.isLocal = true) :
    Keeps (p.run s callee) := by
  induction p with
  | done => exact fun t k u e => ⟨t, e, rfl⟩
  | text cs => exact fun t k u e => of_goTo e
  | folded keys single => exact fun t k u e => of_goTo e
  | backref groups ignoreCase => exact fun t k u e => of_goTo e
  | readOn => exact fun t k u e => ⟨_, e, rfl⟩
  | keep => cases h
  | call group => exact calls group
  | set chars =>
    intro t k u e
    rw [run] at e
    dsimp only at e
    split at e
    · split at e
      · exact ⟨_, e, rfl⟩
      · cases e
    · cases e
  | anchor _ | tookPart _ =>
    intro t k u e
    rw [run] at e
    dsimp only at e
    split at e
    · exact ⟨t, e, rfl⟩
    · cases e
  | seq a b iha ihb =>
    obtain ⟨ha, hb⟩ := Bool.and_eq_true_iff.1 h
    intro t k u e
    obtain ⟨v, e, kept⟩ := iha ha _ _ _ e
    obtain ⟨x, e, kept'⟩ := ihb hb _ _ _ e
    exact ⟨x, e, kept'.trans kept⟩
  | alt a b iha ihb =>
    obtain ⟨ha, hb⟩ := Bool.and_eq_true_iff.1 h
    intro t k u e
    rw [run] at e
    rcases of_firstOf e with e | ⟨f, e⟩
    · exact iha ha _ _ _ e
    · exact (ihb hb).resume e
  | option body greedy ih =>
    intro t k u e
    rw [run] at e
    dsimp only at e
    split at e
    · rcases of_firstOf e with e | ⟨f, e⟩
      · exact ih h _ _ _ e
      · exact ⟨_, e, rfl⟩
    · rcases of_firstOf e with e | ⟨f, e⟩
      · exact ⟨t, e, rfl⟩
      · exact (ih h).resume e
  | star body greedy watch ih =>
    intro t k u e
    rw [run] at e
    dsimp only at e
    split at e
    · exact of_firstPlace e
    · rw [star_eq_counted _ _ _ _ 0] at e
      exact keeps_counted (ih h) 0 _ watch s.turns 0 t k u e
  | counted body least most greedy watch ih => exact keeps_counted (ih h) least greedy watch _ 0
  | atomic body ih =>
    intro t k u e
    obtain ⟨v, inner, e⟩ := of_commit e
    exact ⟨v, e, (ih h).of_ok inner⟩
  | capture group restored body ih => exact keeps_capture (ih h) group restored
  | ahead body ih =>
    intro t k u e
    obtain ⟨v, inner, e⟩ := of_commit e
    have kept := (ih h).of_ok inner
    exact ⟨_, e, kept⟩
  | notAhead body ih =>
    intro t k u e
    obtain ⟨f, e⟩ := of_refuse e
    exact ⟨_, e, rfl⟩
  | behind size body ih =>
    intro t k u e
    rw [run] at e
    dsimp only at e
    split at e
    · obtain ⟨v, inner, e⟩ := of_commit e
      have kept := (ih h).of_ok inner
      exact ⟨v, e, kept⟩
    · cases e
  | notBehind size body ih =>
    intro t k u e
    rw [run] at e
    dsimp only at e
    split at e
    · obtain ⟨f, e⟩ := of_refuse e
      exact ⟨_, e, rfl⟩
    · exact ⟨t, e, rfl⟩
  | behindWithin leadSize lead nearest farthest body ihl ihb =>
    obtain ⟨hl, hb⟩ := Bool.and_eq_true_iff.1 h
    intro t k u e
    obtain ⟨v, inner, e⟩ := of_commit e
    exact ⟨v, e, kept_of_behindWithin (ihl hl) (ihb hb) inner⟩
  | notBehindWithin leadSize lead nearest farthest body ihl ihb =>
    intro t k u e
    obtain ⟨f, e⟩ := of_refuse e
    exact ⟨_, e, rfl⟩
  | choice condition yes no ihc ihy ihn =>
    obtain ⟨h, hn⟩ := Bool.and_eq_true_iff.1 h
    obtain ⟨hc, hy⟩ := Bool.and_eq_true_iff.1 h
    intro t k u e
    rw [run] at e
    dsimp only at e
    split at e
    · next v holds =>
      obtain ⟨_, same, e⟩ := of_commit e
      cases same
      obtain ⟨x, e, kept⟩ := ihy hy _ _ _ e
      exact ⟨x, e, kept.trans ((ihc hc).of_ok holds)⟩
    · exact (ihn hn).resume (of_retry e)
  | absent body expr ihb ihe =>
    obtain ⟨_, he⟩ := Bool.and_eq_true_iff.1 h
    intro t k u e
    rw [run] at e
    dsimp only at e
    split at e
    · obtain ⟨v, e, kept⟩ := ihe he _ _ _ e
      exact ⟨_, e, kept⟩
    · cases e
  | stopBefore body ih =>
    intro t k u e
    rw [run] at e
    dsimp only at e
    split at e
    · exact ⟨_, e, rfl⟩
    · cases e

end Plan

/-! ## Searches -/

namespace Pattern

/-- A pattern all of whose plans are local. -/
def isLocal (p : Pattern) : Bool := p.plan.isLocal && p.callable.all fun g => g.2.isLocal

variable {p : Pattern} {s : Search}

/-- What a local pattern calls is local. -/
lemma isLocal_of_callable (h : p.isLocal = true) {group : Nat} {plan : Plan}
    (called : p.callable.lookup group = some plan) : plan.isLocal = true := by
  obtain ⟨_, all⟩ := Bool.and_eq_true_iff.1 h
  obtain ⟨_, _, listed, _⟩ := List.lookup_eq_some_iff.1 called
  exact List.all_eq_true.1 all (group, plan) (by simp [listed])

/-- The callees of a local pattern do not ask where the search began. -/
lemma callee_start (h : p.isLocal = true) (s : Search) (n depth : Nat) :
    p.callee { s with start := n } depth = p.callee s depth := by
  induction depth with
  | zero => rfl
  | succ depth ih =>
    funext group
    rw [callee, callee, ih]
    cases called : p.callable.lookup group with
    | none => rfl
    | some plan => exact Plan.run_start (isLocal_of_callable h called) s n _

/-- Nor do they move the start. -/
lemma keeps_callee (h : p.isLocal = true) (s : Search) (depth group : Nat) :
    Attempt.Keeps (p.callee s depth group) := by
  induction depth generalizing group with
  | zero => exact fun t k u e => by cases e
  | succ depth ih =>
    rw [callee]
    cases called : p.callable.lookup group with
    | none => exact fun t k u e => by cases e
    | some plan => exact Plan.keeps_run ih (isLocal_of_callable h called)

/-- Where a local pattern matches does not depend on where the search began. -/
lemma matchAt_start (h : p.isLocal = true) (s : Search) (n : Nat) (c : Cursor) :
    p.matchAt { s with start := n } c = p.matchAt s c := by
  obtain ⟨plan, _⟩ := Bool.and_eq_true_iff.1 h
  unfold matchAt attempt
  rw [callee_start h, Plan.run_start plan]

/-- A match does not start behind the place where it was tried. -/
lemma start_le_of_matchAt (h : p.isLocal = true) {c : Cursor} {r : Match}
    (found : p.matchAt s c = some r) : r.start ≤ c.offset := by
  obtain ⟨plan, _⟩ := Bool.and_eq_true_iff.1 h
  unfold matchAt attempt at found
  split at found
  · next t e =>
    have kept : t.kept = none := (Plan.keeps_run (keeps_callee h s maxCalls) plan).of_ok e
    cases found
    simp [toMatch, Match.start, kept]
  · cases found

/-- Nor does what it finds. -/
lemma findFrom_start (h : p.isLocal = true) (s : Search) (n : Nat) (before : List Char)
    (offset : Nat) (after : List Char) :
    p.findFrom { s with start := n } before offset after = p.findFrom s before offset after := by
  induction after generalizing before offset with
  | nil => exact matchAt_start h s n _
  | cons x after ih => rw [findFrom, findFrom, matchAt_start h, ih]

/-- Behind some characters a search goes on as if it began there, unless it has found a match. -/
lemma findFrom_append (h : p.isLocal = true) (before : List Char) (offset : Nat) (a b : Text) :
    p.findFrom s before offset (a ++ b)
        = p.findFrom s (a.reverse ++ before) (offset + Text.size a) b ∨
      ∃ r, p.findFrom s before offset (a ++ b) = some r ∧ r.start < offset + Text.size a := by
  induction a generalizing before offset with
  | nil => exact .inl rfl
  | cons x a ih =>
    have pos : 0 < x.utf8Size := Char.utf8Size_pos x
    rw [List.cons_append, findFrom]
    cases here : p.matchAt s ⟨before, x :: (a ++ b), offset⟩ with
    | some r =>
      have le : r.start ≤ offset := start_le_of_matchAt h here
      exact .inr ⟨r, rfl, by rw [Text.size_cons]; omega⟩
    | none =>
      have further := ih (x :: before) (offset + x.utf8Size)
      rw [Nat.add_assoc, ← Text.size_cons] at further
      simpa using further

/-- Of a search that begins further right is known: it finds the same, or the match is behind it. -/
lemma find_append (h : p.isLocal = true) (a b c : Text) :
    p.find (a ++ b ++ c) (Text.size a) = p.find (a ++ b ++ c) (Text.size a + Text.size b) ∨
      ∃ r, p.find (a ++ b ++ c) (Text.size a) = some r ∧
        r.start < Text.size a + Text.size b := by
  have left := Cursor.seek?_append [] 0 a (b ++ c)
  have right := Cursor.seek?_append [] 0 (a ++ b) c
  rw [← List.append_assoc] at left
  simp only [Nat.zero_add, List.append_nil, Text.size_append] at left right
  unfold find
  rw [left, right, List.reverse_append]
  dsimp only
  rw [← findFrom_start h _ (Text.size a + Text.size b)]
  exact findFrom_append h a.reverse (Text.size a) b c

/-- The matcher of a local pattern is stable on every line. -/
theorem stable_of_isLocal (h : p.isLocal = true) (source : String) (line : Text) :
    (p.matcher source).Stable line := by
  constructor
  · intro n k hn hk le miss
    obtain ⟨a, b, c, rfl, rfl, rfl⟩ := hn.exists_slice hk le
    rcases find_append h a b c with same | ⟨r, found, _⟩
    · exact same.symm.trans miss
    · cases found.symm.trans miss
  · intro n k r hn hk le found ahead
    obtain ⟨a, b, c, rfl, rfl, rfl⟩ := hn.exists_slice hk le
    rcases find_append h a b c with same | ⟨r', found', behind⟩
    · exact same.symm.trans found
    · cases found'.symm.trans found
      exact absurd ahead (Nat.not_le.2 behind)

end Pattern

end Highlighter
