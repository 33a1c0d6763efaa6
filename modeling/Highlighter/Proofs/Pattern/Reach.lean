import Highlighter.Pattern.Planning
import Highlighter.Proofs.Text.Boundary

/-!
# What a match can reach

A walk hands attempts to a continuation, one after the other. Its contract (`Attempt.Moves`) says
which ones: all of them are on the line, and at least a number of bytes further right. Since a walk
returns what the continuation returns, it can be stated for every property of outcomes that the
continuation guarantees. The walks of plans that only read on keep this contract with the least
number of characters that the plan can read (`Plan.moves_run`).
-/

namespace Highlighter

/-- The order of the characters does not matter for the size. -/
@[simp] lemma Text.size_reverse (t : Text) : size t.reverse = size t := by
  induction t with
  | nil => rfl
  | cons c t ih => simp [ih, Nat.add_comm]

namespace Cursor

variable {line : Text} {c d : Cursor}

/-- A place of a line: what is before it and what follows make up the line. -/
structure On (line : Text) (c : Cursor) : Prop where
  parts : c.before.reverse ++ c.after = line
  size : Text.size c.before = c.offset

/-- A place on a line is a boundary of it. -/
lemma On.isBoundary (h : c.On line) : Text.IsBoundary line c.offset :=
  Text.isBoundary_iff.2 ⟨c.before.reverse, c.after, h.parts.symm, by simp [h.size]⟩

/-- The place behind the next character is one of the line, further right. -/
lemma On.next? (h : c.On line) {limit : Nat} {x : Char} (e : c.next? limit = some (x, d)) :
    d.On line ∧ c.offset + 1 ≤ d.offset := by
  unfold Cursor.next? at e
  split at e
  · cases e
  · next y after rest =>
    dsimp only at e
    split at e
    · cases e
      have pos : 0 < x.utf8Size := Char.utf8Size_pos x
      have parts := h.parts
      have size := h.size
      rw [rest] at parts
      refine ⟨⟨by simpa using parts, ?_⟩, ?_⟩
      · simp [size, Nat.add_comm]
      · dsimp only
        omega
    · cases e

/-- The place behind a text is one of the line, as many characters further right. -/
lemma On.skip? {limit : Nat} {cs : List Char} (h : c.On line) (e : c.skip? limit cs = some d) :
    d.On line ∧ c.offset + cs.length ≤ d.offset := by
  induction cs generalizing c with
  | nil =>
    cases e
    exact ⟨h, Nat.le_refl _⟩
  | cons x cs ih =>
    rw [Cursor.skip?.eq_def] at e
    dsimp only at e
    split at e
    · next y c' moved =>
      obtain ⟨on, le⟩ := h.next? moved
      split at e
      · obtain ⟨on', le'⟩ := ih on e
        exact ⟨on', by rw [List.length_cons]; omega⟩
      · cases e
    · cases e

/-- The places that a run of characters comes to are places of the line, and not further left. -/
lemma On.setRun {s : CharSet} {limit n : Nat} {found : List Cursor} (h : c.On line)
    (hd : d ∈ Attempt.setRun s limit n c found) : d ∈ found ∨ d.On line ∧ c.offset ≤ d.offset := by
  induction n generalizing c found with
  | zero =>
    rcases List.mem_cons.1 hd with rfl | hd
    · exact .inr ⟨h, Nat.le_refl _⟩
    · exact .inl hd
  | succ n ih =>
    have stop : d ∈ c :: found → d ∈ found ∨ d.On line ∧ c.offset ≤ d.offset := by
      intro hd
      rcases List.mem_cons.1 hd with rfl | hd
      · exact .inr ⟨h, Nat.le_refl _⟩
      · exact .inl hd
    rw [Attempt.setRun] at hd
    split at hd
    · next x c' moved =>
      obtain ⟨on, le⟩ := h.next? moved
      split at hd
      · rcases ih on hd with hd | ⟨hd, le'⟩
        · exact stop hd
        · exact .inr ⟨hd, by omega⟩
      · exact stop hd
    · exact stop hd

end Cursor

/-- All offsets in the registers are boundaries of a line. -/
def Registers.On (line : Text) (rs : Registers) : Prop :=
  ∀ r ∈ rs, ∀ n, r.start = some n ∨ r.stop = some n → Text.IsBoundary line n

namespace Registers

variable {line : Text} {rs old new : Registers}

/-- What a group holds are boundaries of the line. -/
lemma On.of (h : rs.On line) (group : Nat) :
    ∀ n, (rs.of group).start = some n ∨ (rs.of group).stop = some n → Text.IsBoundary line n := by
  unfold Registers.of
  cases found : rs[group - 1]? with
  | none => simp
  | some r => exact h r (List.mem_of_getElem? found)

/-- Writing boundaries of the line keeps the captures on it. -/
lemma On.write (h : rs.On line) (group : Nat) {r : Register}
    (hr : ∀ n, r.start = some n ∨ r.stop = some n → Text.IsBoundary line n) :
    (rs.write group r).On line := by
  intro x hx
  rcases List.mem_or_eq_of_mem_set hx with hx | rfl
  · exact h x hx
  · exact hr

/-- Rolling back captures on the line leaves captures on it. -/
lemma On.rollBack {restored : List Bool} (hold : old.On line) (hnew : new.On line) :
    (old.rollBack restored new).On line := by
  fun_induction Registers.rollBack restored old new with
  | case1 r restored x old y new ih =>
    intro z hz
    rcases List.mem_cons.1 hz with rfl | hz
    · split
      · exact hold x List.mem_cons_self
      · exact hnew y List.mem_cons_self
    · exact ih (fun z hz => hold z (List.mem_cons_of_mem _ hz))
        (fun z hz => hnew z (List.mem_cons_of_mem _ hz)) z hz
  | case2 => exact hnew

end Registers

namespace Attempt

variable {line : Text} {n : Nat} {t : Attempt} {Q : Attempt → Prop} {w : Walk}
  {k : Attempt → Outcome}

/-- An attempt at a place of a line, with captures on the line and no start moved. -/
structure On (line : Text) (t : Attempt) : Prop where
  cursor : t.cursor.On line
  registers : t.registers.On line
  kept : t.kept = none

/-- An attempt that succeeded has a property, one that failed left captures on the line. -/
def Good (line : Text) (Q : Attempt → Prop) : Outcome → Prop
  | .ok u => Q u
  | .error f => f.registers.On line

/--
From an attempt on a line, a walk goes on only from attempts on the line that are at least `n` bytes
further right. So what the continuation guarantees for all of these, the walk does.
-/
def Moves (line : Text) (n : Nat) (w : Walk) : Prop :=
  ∀ (Q : Attempt → Prop) (t : Attempt) (k : Attempt → Outcome), t.On line →
    (∀ u, u.On line → t.offset + n ≤ u.offset → Good line Q (k u)) → Good line Q (w t k)

/-- Going on with captures on the line stays on it. -/
lemma On.resume (h : t.On line) {f : Failure} (hf : f.registers.On line) : (t.resume f).On line :=
  ⟨h.cursor, hf, h.kept⟩

/-- Moving to a place on the line stays on it. -/
lemma On.moveTo (h : t.On line) {c : Cursor} (hc : c.On line) : On line { t with cursor := c } :=
  ⟨hc, h.registers, h.kept⟩

/-- A walk that goes far also goes less far. -/
lemma Moves.mono {m : Nat} (h : Moves line n w) (le : m ≤ n) : Moves line m w :=
  fun Q t k ht hk => h Q t k ht fun u hu far => hk u hu (by omega)

/-- What a walk comes to that is not continued. -/
lemma Moves.good_ok (h : Moves line n w) (ht : t.On line) :
    Good line (fun u => u.On line ∧ t.offset + n ≤ u.offset) (w t .ok) :=
  h _ t .ok ht fun _ hu far => ⟨hu, far⟩

/-! ## Choices -/

/-- Another way is tried, or the attempt is given up with the captures that it has. -/
lemma good_retry {f : Failure} {way : Attempt → Outcome} (hf : f.registers.On line)
    (hway : Good line Q (way (t.resume f))) : Good line Q (t.retry f way) := by
  unfold retry
  split
  · exact hf
  · exact hway

/-- Both ways are good if the second one is, whatever captures the first one left. -/
lemma good_firstOf {a b : Attempt → Outcome} (ha : Good line Q (a t))
    (hb : ∀ f : Failure, f.registers.On line → Good line Q (b (t.resume f))) :
    Good line Q (t.firstOf a b) := by
  unfold firstOf
  cases e : a t with
  | ok u =>
    rw [e] at ha
    exact ha
  | error f =>
    rw [e] at ha
    exact good_retry ha (hb f ha)

/-- Going to a place is good if going on from there is. -/
lemma good_goTo (ht : t.On line) {c : Option Cursor}
    (hk : ∀ d, c = some d → Good line Q (k { t with cursor := d })) :
    Good line Q (t.goTo c k) := by
  cases c with
  | none => exact ht.registers
  | some d => exact hk d rfl

/-- Trying places is good if going on from each is, whatever captures the others left. -/
lemma good_firstPlace {cs : List Cursor} (ht : t.On line)
    (hk : ∀ f : Failure, f.registers.On line → ∀ c ∈ cs,
      Good line Q (k { t.resume f with cursor := c })) :
    Good line Q (firstPlace k cs t) := by
  induction cs generalizing t with
  | nil => exact ht.registers
  | cons c cs ih =>
    have first := hk ⟨t.registers, t.retries⟩ ht.registers c List.mem_cons_self
    cases cs with
    | nil => exact first
    | cons d cs =>
      rw [firstPlace]
      · split
        · next u e =>
          have first : Good line Q (k { t with cursor := c }) := first
          rwa [e] at first
        · next f e =>
          have first : Good line Q (k { t with cursor := c }) := first
          rw [e] at first
          refine good_retry first (ih (ht.resume first) fun f hf c hc => ?_)
          exact hk f hf c (List.mem_cons_of_mem _ hc)
      · simp

/-- What a failure leaves behind may be changed on the way out. -/
lemma good_undo {o : Outcome} {undo : Registers → Registers} :
    Good line Q o → (∀ rs, Registers.On line rs → Registers.On line (undo rs)) →
      Good line Q (match o with
        | .ok v => .ok v
        | .error f => .error { f with registers := undo f.registers }) := by
  intro ho hundo
  cases o with
  | ok v => exact ho
  | error f => exact hundo f.registers ho

/-- Committing to what was found is good if going on from there is. -/
lemma good_commit {restored : List Bool} {r : Outcome} {P : Attempt → Prop} (ht : t.On line)
    (hr : Good line P r) (hk : ∀ u, P u → Good line Q (k u)) :
    Good line Q (commit restored t r k) := by
  cases r with
  | error f => exact hr
  | ok u => exact good_undo (hk u hr) fun rs hrs => ht.registers.rollBack hrs

/-- Refusing what is found is good if going on in its absence is. -/
lemma good_refuse {restored : List Bool} {r : Outcome} (ht : t.On line)
    (hr : Good line (On line) r)
    (hk : ∀ f : Failure, f.registers.On line → Good line Q (k (t.resume f))) :
    Good line Q (refuse restored t r k) := by
  cases r with
  | error f => exact good_retry hr (hk f hr)
  | ok u => exact ht.registers.rollBack hr.registers

/-! ## Loops -/

/-- A turn of a loop is good if leaving the loop is and staying in it is. -/
lemma good_afterTurn {watch : Option (List Nat)} {u : Attempt} {leave stay : Attempt → Outcome}
    (hu : u.On line) (hleave : Good line Q (leave u)) (hstay : Good line Q (stay u)) :
    Good line Q (afterTurn watch t u leave stay) := by
  unfold afterTurn
  split
  · exact hstay
  · split
    · split
      · exact hleave
      · exact hstay
      · exact hu.registers
    · exact hstay

/-- Counted turns do not lead back. -/
lemma moves_counted (body : Moves line 0 w) (least : Nat) (greedy : Bool)
    (watch : Option (List Nat)) (turns done : Nat) :
    Moves line 0 (counted w least greedy watch turns done) := by
  induction turns generalizing done with
  | zero => exact fun Q t k ht hk => hk t ht (Nat.le_refl _)
  | succ turns ih =>
    intro Q t k ht hk
    -- one more turn leads to the end of the loop or to the turns behind it
    have again : ∀ v, v.On line → v.offset = t.offset → Good line Q
        (w v fun u => afterTurn watch v u k fun u =>
          counted w least greedy watch turns (done + 1) u k) := by
      intro v hv same
      refine body Q v _ hv fun u hu far => good_afterTurn hu (hk u hu (by omega)) ?_
      exact ih (done + 1) Q u k hu fun x hx far' => hk x hx (by omega)
    have leave : ∀ v, v.On line → v.offset = t.offset → Good line Q (k v) :=
      fun v hv same => hk v hv (by omega)
    rw [counted]
    dsimp only
    split
    · exact again t ht rfl
    · split
      · exact good_firstOf (again t ht rfl) fun f hf => leave _ (ht.resume hf) rfl
      · exact good_firstOf (leave t ht rfl) fun f hf => again _ (ht.resume hf) rfl

/-- Turns that are not counted are those of which none must be taken. -/
lemma star_eq_counted (w : Walk) (greedy : Bool) (watch : Option (List Nat)) (turns done : Nat) :
    star w greedy watch turns = counted w 0 greedy watch turns done := by
  induction turns generalizing done with
  | zero => rfl
  | succ turns ih =>
    funext t k
    simp [star, counted, ih (done + 1)]

/-- The first of counted turns is taken if it must be. -/
lemma moves_counted_succ (body : Moves line n w) {least : Nat} (some : 0 < least) (greedy : Bool)
    (watch : Option (List Nat)) (turns : Nat) :
    Moves line n (counted w least greedy watch (turns + 1) 0) := by
  intro Q t k ht hk
  rw [counted]
  dsimp only
  rw [if_pos some]
  refine body Q t _ ht fun u hu far => good_afterTurn hu (hk u hu far) ?_
  exact moves_counted (body.mono (Nat.zero_le n)) least greedy watch turns 1 Q u k hu
    fun x hx far' => hk x hx (by omega)

end Attempt

namespace Plan

open Attempt

variable {line : Text} {s : Search} {callee : Nat → Walk}

/-- A plan that only reads on: it does not look behind, recall captures, call or move the start. -/
def readsOn : Plan → Bool
  | done => true
  | text _ => true
  | set _ => true
  | anchor _ => true
  | seq a b => a.readsOn && b.readsOn
  | alt a b => a.readsOn && b.readsOn
  | option body _ => body.readsOn
  | star body _ _ => body.readsOn
  | counted body _ _ _ _ => body.readsOn
  | atomic body => body.readsOn
  | capture _ _ body => body.readsOn
  | ahead body => body.readsOn
  | notAhead body => body.readsOn
  | choice condition yes no => condition.readsOn && yes.readsOn && no.readsOn
  | tookPart _ => true
  | readOn => true
  | _ => false

/-- A number of characters that a plan reads at least. -/
def least : Plan → Nat
  | text cs => cs.length
  | set _ => 1
  | seq a b => a.least + b.least
  | alt a b => min a.least b.least
  | counted body turns most _ _ => if turns = 0 ∨ most = some 0 then 0 else body.least
  | atomic body => body.least
  | capture _ _ body => body.least
  | choice _ yes no => min yes.least no.least
  | _ => 0

/-- A group hands on what its body does, with its own register written. -/
lemma moves_capture {body : Plan} {n : Nat} (h : Moves line n (body.run s callee)) (group : Nat)
    (restored : Bool) : Moves line n ((capture group restored body).run s callee) := by
  intro Q t k ht hk
  have here : Text.IsBoundary line t.offset := ht.cursor.isBoundary
  have entered : ∀ n, (Register.mk (some t.offset) none).start = some n ∨
      (Register.mk (some t.offset) none).stop = some n → Text.IsBoundary line n := by
    simpa using here
  rw [run]
  dsimp only
  split
  · -- the register is written on the way in and out, and written back on a failure
    refine good_undo ?_ fun rs hrs => hrs.write group (ht.registers.of group)
    refine h Q _ _ ⟨ht.cursor, ht.registers.write group entered, ht.kept⟩ fun u hu far => ?_
    refine good_undo ?_ fun rs hrs => hrs.write group entered
    refine hk _ ⟨hu.cursor, hu.registers.write group fun n hn => ?_, hu.kept⟩ far
    rcases hn with hn | hn
    · cases hn
      exact here
    · cases hn
      exact hu.cursor.isBoundary
  · refine h Q _ _ ⟨ht.cursor, ht.registers.write group fun n hn => ?_, ht.kept⟩ fun u hu far => ?_
    · rcases hn with hn | hn
      · cases hn
        exact here
      · exact ht.registers.of group n (.inr hn)
    · refine hk _ ⟨hu.cursor, hu.registers.write group fun n hn => ?_, hu.kept⟩ far
      rcases hn with hn | hn
      · exact hu.registers.of group n (.inl hn)
      · cases hn
        exact hu.cursor.isBoundary

/-- The walk of a plan that only reads on moves by as much as the plan reads at least. -/
theorem moves_run {p : Plan} (h : p.readsOn) : Moves line p.least (p.run s callee) := by
  induction p with
  | done => exact fun Q t k ht hk => hk t ht (Nat.le_refl _)
  | readOn => exact fun Q t k ht hk => hk _ ⟨ht.cursor, ht.registers, ht.kept⟩ (Nat.le_refl _)
  | text cs =>
    intro Q t k ht hk
    refine good_goTo ht fun d e => ?_
    obtain ⟨on, far⟩ := ht.cursor.skip? e
    exact hk _ (ht.moveTo on) far
  | set chars =>
    intro Q t k ht hk
    rw [run]
    dsimp only
    split
    · next x d e =>
      obtain ⟨on, far⟩ := ht.cursor.next? e
      split
      · exact hk _ (ht.moveTo on) far
      · exact ht.registers
    · exact ht.registers
  | anchor a =>
    intro Q t k ht hk
    rw [run]
    dsimp only
    split
    · exact hk t ht (Nat.le_refl _)
    · exact ht.registers
  | tookPart groups =>
    intro Q t k ht hk
    rw [run]
    dsimp only
    split
    · exact hk t ht (Nat.le_refl _)
    · exact ht.registers
  | seq a b iha ihb =>
    obtain ⟨ha, hb⟩ := Bool.and_eq_true_iff.1 h
    intro Q t k ht hk
    refine iha ha Q t _ ht fun u hu far => ihb hb Q u k hu fun v hv far' => hk v hv ?_
    rw [least]
    omega
  | alt a b iha ihb =>
    obtain ⟨ha, hb⟩ := Bool.and_eq_true_iff.1 h
    intro Q t k ht hk
    rw [run]
    refine good_firstOf ?_ fun f hf => ?_
    · exact (iha ha).mono (Nat.min_le_left _ _) Q t k ht hk
    · exact (ihb hb).mono (Nat.min_le_right _ _) Q _ k (ht.resume hf) hk
  | option body greedy ih =>
    have body := (ih h).mono (Nat.zero_le _)
    intro Q t k ht hk
    rw [run]
    dsimp only
    split
    · refine good_firstOf (body Q t k ht hk) fun f hf => ?_
      exact hk _ (ht.resume hf) (Nat.le_refl _)
    · refine good_firstOf (hk t ht (Nat.le_refl _)) fun f hf => ?_
      exact body Q _ k (ht.resume hf) hk
  | star body greedy watch ih =>
    have body := (ih h).mono (Nat.zero_le _)
    intro Q t k ht hk
    rw [run]
    dsimp only
    split
    · refine good_firstPlace ht fun f hf c hc => ?_
      rcases ht.cursor.setRun hc with hc | ⟨on, far⟩
      · cases hc
      · exact hk _ ⟨on, hf, ht.kept⟩ far
    · rw [star_eq_counted _ _ _ _ 0]
      exact moves_counted body 0 _ watch s.turns 0 Q t k ht hk
  | counted body turns most greedy watch ih =>
    intro Q t k ht hk
    rw [run]
    rw [least] at hk
    split at hk
    · exact moves_counted ((ih h).mono (Nat.zero_le _)) turns greedy watch _ 0 Q t k ht hk
    · next some =>
      obtain ⟨n, hn⟩ : ∃ n, most.getD (turns + s.turns) = n + 1 := by
        refine Nat.exists_eq_add_one.2 ?_
        cases most with
        | none => simp at some ⊢; omega
        | some m => simp at some ⊢; omega
      rw [hn]
      exact moves_counted_succ (ih h) (by omega) greedy watch n Q t k ht hk
  | atomic body ih =>
    intro Q t k ht hk
    exact good_commit ht ((ih h).good_ok ht) fun u hu => hk u hu.1 hu.2
  | capture group restored body ih => exact moves_capture (ih h) group restored
  | ahead body ih =>
    intro Q t k ht hk
    refine good_commit ht ((ih h).good_ok ht) fun u hu => ?_
    exact hk _ (hu.1.moveTo ht.cursor) (Nat.le_refl _)
  | notAhead body ih =>
    intro Q t k ht hk
    have inner := (ih h).good_ok ht
    refine good_refuse ht ?_ fun f hf => hk _ (ht.resume hf) (Nat.le_refl _)
    cases e : body.run s callee t .ok with
    | ok u =>
      rw [e] at inner
      exact inner.1
    | error f =>
      rw [e] at inner
      exact inner
  | choice condition yes no ihc ihy ihn =>
    obtain ⟨h, hn⟩ := Bool.and_eq_true_iff.1 h
    obtain ⟨hc, hy⟩ := Bool.and_eq_true_iff.1 h
    intro Q t k ht hk
    have inner := (ihc hc).good_ok ht
    rw [run]
    dsimp only
    split
    · next u e =>
      rw [e] at inner
      refine good_commit ht inner fun u hu => ?_
      refine ihy hy Q u k hu.1 fun v hv far => hk v hv ?_
      have behind := hu.2
      rw [least]
      omega
    · next f e =>
      rw [e] at inner
      refine good_retry inner ?_
      exact (ihn hn).mono (Nat.min_le_right _ _) Q _ k (ht.resume inner) hk
  | _ => cases h

end Plan

end Highlighter
