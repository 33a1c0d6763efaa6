import Highlighter.Proofs.Pattern.Search

/-!
# How often a pattern is retried

An outcome wastes a number of ways if it is a failure behind at least that many ways that were given
up, or behind as many as can be given up at all (`Attempt.Wastes`). A greedy loop over characters
wastes what its continuation wastes at all of its places together (`Attempt.wastes_firstPlace`). So
two such loops in a row that can both read a run of characters waste a number of ways that grows
with the square of the length of the run, if the run is followed by something they cannot end
before (`Plan.wastes_digits_suffix`). The main result is `Pattern.givesUp_hexNumber`: this is how the
search for a number comes to be given up.

A pattern that cannot begin with the character at a place is not found there
(`Pattern.start_ne_of_avoids`).
-/

namespace Highlighter

namespace Cursor

/-- The next character is passed if there is room for it. -/
lemma next?_cons {limit offset : Nat} {before after : List Char} {x : Char}
    (inside : offset + x.utf8Size ≤ limit) :
    next? limit ⟨before, x :: after, offset⟩
      = some (x, ⟨x :: before, after, offset + x.utf8Size⟩) := by
  simp [next?, inside]

/-- The character that is passed is the one that follows. -/
lemma head?_of_next? {limit : Nat} {c d : Cursor} {x : Char} (h : c.next? limit = some (x, d)) :
    c.after.head? = some x := by
  unfold next? at h
  split at h
  · cases h
  · next y after follows =>
    dsimp only at h
    split at h
    · cases h
      rw [follows, List.head?_cons]
    · cases h

/-- So it is known if what follows is. -/
lemma eq_of_next? {limit : Nat} {c d : Cursor} {x y : Char} {rest : List Char}
    (here : c.after = x :: rest) (h : c.next? limit = some (y, d)) : y = x := by
  have head := head?_of_next? h
  rw [here, List.head?_cons] at head
  exact (Option.some.inj head).symm

/-- The places of a run of equal characters, the last first. -/
def alongRun (x : Char) (rest : List Char) : Nat → List Char → Nat → List Cursor
  | 0, before, offset => [⟨before, rest, offset⟩]
  | n + 1, before, offset =>
    alongRun x rest n (x :: before) (offset + x.utf8Size) ++
      [⟨before, List.replicate (n + 1) x ++ rest, offset⟩]

variable {x : Char} {rest : List Char}

/-- A run has places. -/
lemma alongRun_ne_nil (n : Nat) (before : List Char) (offset : Nat) :
    alongRun x rest n before offset ≠ [] := by
  cases n <;> simp [alongRun]

/-- There is one place more than characters. -/
lemma length_alongRun (n : Nat) (before : List Char) (offset : Nat) :
    (alongRun x rest n before offset).length = n + 1 := by
  induction n generalizing before offset with
  | zero => rfl
  | succ n ih => simp [alongRun, ih]

/-- What follows the places, taken together, grows with the square of the length of the run. -/
lemma sum_length_alongRun (n : Nat) (before : List Char) (offset : Nat) :
    2 * ((alongRun x rest n before offset).map fun c => c.after.length).sum
      = (n + 1) * (n + 2 * rest.length) := by
  induction n generalizing before offset with
  | zero => simp [alongRun]
  | succ n ih =>
    rw [alongRun, List.map_append, List.sum_append, Nat.mul_add, ih]
    simp only [List.map_cons, List.map_nil, List.sum_cons, List.sum_nil, List.length_append,
      List.length_replicate]
    ring

/-- A place of a run is behind the start of it or behind one of its characters. -/
lemma exists_of_mem_alongRun {n : Nat} {before : List Char} {offset : Nat} {c : Cursor}
    (mem : c ∈ alongRun x rest n before offset) :
    ∃ k, c.after = List.replicate k x ++ rest ∧
      c.offset + k * x.utf8Size = offset + n * x.utf8Size ∧
      (c.before = before ∨ c.before.head? = some x) := by
  induction n generalizing before offset with
  | zero =>
    obtain rfl := List.mem_singleton.1 mem
    exact ⟨0, rfl, rfl, .inl rfl⟩
  | succ n ih =>
    rcases List.mem_append.1 mem with mem | mem
    · obtain ⟨k, after, reached, behind⟩ := ih mem
      refine ⟨k, after, by rw [reached, Nat.succ_mul]; omega, .inr ?_⟩
      rcases behind with same | behind
      · rw [same, List.head?_cons]
      · exact behind
    · obtain rfl := List.mem_singleton.1 mem
      exact ⟨n + 1, rfl, rfl, .inl rfl⟩

/-- A greedy run over a set comes to all places of a run of one of its characters. -/
lemma setRun_eq_alongRun {s : CharSet} (mem : s.mem x = true)
    (ends : ∀ y ∈ rest.head?, s.mem y = false) {n turns limit offset : Nat} (enough : n ≤ turns)
    (inside : offset + n * x.utf8Size ≤ limit) (before : List Char) (found : List Cursor) :
    Attempt.setRun s limit turns ⟨before, List.replicate n x ++ rest, offset⟩ found
      = alongRun x rest n before offset ++ found := by
  induction n generalizing turns offset before found with
  | zero =>
    cases turns with
    | zero => rfl
    | succ turns =>
      rw [Attempt.setRun]
      split
      · next y d next =>
        rw [if_neg (by simp [ends y (head?_of_next? next)])]
        rfl
      · rfl
  | succ n ih =>
    obtain ⟨turns, rfl⟩ := Nat.exists_eq_add_of_le' (Nat.le_trans (Nat.le_add_left 1 n) enough)
    rw [Nat.succ_mul] at inside
    rw [List.replicate_succ, List.cons_append, Attempt.setRun, next?_cons (by omega)]
    dsimp only
    rw [if_pos mem, ih (by omega) (by omega), alongRun, List.append_assoc]
    rfl

end Cursor

namespace Attempt

variable {k : Attempt → Outcome} {t : Attempt} {n : Nat}

/-- A failure behind at least a number of ways that were given up, or behind as many as can be. -/
def Wastes (n : Nat) (o : Outcome) : Prop :=
  ∃ f, o = .error f ∧ min n (retryLimit + 1) ≤ f.retries

/-- Who wastes many ways wastes fewer. -/
lemma Wastes.mono {m : Nat} {o : Outcome} (h : Wastes n o) (le : m ≤ n) : Wastes m o := by
  obtain ⟨f, failed, many⟩ := h
  exact ⟨f, failed, by omega⟩

/-- Giving up wastes one way more. -/
lemma wastes_giveUp (t : Attempt) : Wastes (t.retries + 1) t.giveUp :=
  ⟨_, rfl, Nat.min_le_left _ _⟩

/-- Going on from one place after the other wastes what is wasted at all of them. -/
lemma wastes_firstPlace {cs : List Cursor} (some : cs ≠ []) {weight : Cursor → Nat}
    (h : ∀ c ∈ cs, ∀ f : Failure,
      Wastes (f.retries + weight c) (k { t.resume f with cursor := c })) :
    Wastes (t.retries + (cs.map weight).sum) (firstPlace k cs t) := by
  induction cs generalizing t with
  | nil => exact absurd rfl some
  | cons c cs ih =>
    have first : Wastes (t.retries + weight c) (k { t with cursor := c }) :=
      h c List.mem_cons_self ⟨t.registers, t.retries⟩
    cases cs with
    | nil => simpa [firstPlace] using first
    | cons d cs =>
      obtain ⟨f, failed, many⟩ := first
      rw [firstPlace]
      · rw [failed]
        dsimp only [retry]
        split
        · next final =>
          have final : retryLimit < f.retries := of_decide_eq_true final
          exact ⟨f, rfl, by omega⟩
        · next left =>
          -- there are ways left, so those at the first place were counted in full
          have left : ¬ retryLimit < f.retries := fun gt => left (decide_eq_true gt)
          have rest : Wastes (f.retries + ((d :: cs).map weight).sum)
              (firstPlace k (d :: cs) (t.resume f)) :=
            ih (List.cons_ne_nil d cs) fun e mem => h e (List.mem_cons_of_mem c mem)
          refine rest.mono ?_
          rw [List.map_cons, List.sum_cons]
          omega
      · exact List.cons_ne_nil d cs

end Attempt

namespace Plan

open Attempt

variable {s : Search} {callee : Nat → Walk} {t : Attempt} {k : Attempt → Outcome}

/-- A greedy loop over a run wastes what is wasted at all places of the run. -/
lemma wastes_star {chars : CharSet} {x : Char} {rest : List Char} (mem : chars.mem x = true)
    (ends : ∀ y ∈ rest.head?, chars.mem y = false) {n offset : Nat} {before : List Char}
    (here : t.cursor = ⟨before, List.replicate n x ++ rest, offset⟩) (enough : n ≤ s.turns)
    (inside : offset + n * x.utf8Size ≤ t.limit) (weight : Cursor → Nat)
    (h : ∀ c ∈ Cursor.alongRun x rest n before offset, ∀ f : Failure,
      Wastes (f.retries + weight c) (k { t.resume f with cursor := c }))
    (watch : Option (List Nat)) :
    Wastes (t.retries + ((Cursor.alongRun x rest n before offset).map weight).sum)
      ((star (set chars) true watch).run s callee t k) := by
  rw [run]
  dsimp only
  rw [here, Cursor.setRun_eq_alongRun mem ends enough inside, List.append_nil]
  exact wastes_firstPlace (Cursor.alongRun_ne_nil n before offset) h

/-- If the first alternative wastes too many ways, the second is not tried. -/
lemma wastes_alt {a b : Plan} {n : Nat} (h : Wastes n (a.run s callee t k))
    (many : retryLimit < n) : Wastes n ((alt a b).run s callee t k) := by
  obtain ⟨f, failed, least⟩ := h
  refine ⟨f, ?_, least⟩
  have final : f.isFinal = true := decide_eq_true (by omega)
  rw [run]
  unfold firstOf
  dsimp only
  rw [failed]
  exact if_pos final

/--
A number to the base 16 and its suffix, in a word of their own, where both can read the letter `f`
and none an underscore. There may be another way to read a number.
-/
def readsHex : Plan → Bool
  | seq (anchor (.wordBoundary false))
      (seq (alt (seq (text ['0']) (seq (set mark) (seq (set first) (star (set digits) true _)))) _)
        (seq (star (set suffix) true _) (anchor (.wordBoundary false)))) =>
    mark.mem 'x' && first.mem 'f' && digits.mem 'f' && !digits.mem '_' && suffix.mem 'f' &&
      !suffix.mem '_'
  | _ => false

end Plan

/-- A number to the base 16 of many digits that goes on with an underscore, so it is none. -/
def Text.hexNumber (n : Nat) : Text := '0' :: 'x' :: (List.replicate n 'f' ++ ['_'])

/-- Its characters are of one byte each. -/
lemma Text.size_hexNumber (n : Nat) : size (hexNumber n) = n + 3 := by
  have digits : size (List.replicate n 'f') = n := by
    induction n with
    | zero => rfl
    | succ n ih =>
      rw [List.replicate_succ, size_cons, ih]
      exact Nat.add_comm 1 n
  have ends : size ['_'] = 1 := rfl
  rw [hexNumber, size_cons, size_cons, size_append, digits, ends]
  have ones : '0'.utf8Size = 1 ∧ 'x'.utf8Size = 1 := ⟨rfl, rfl⟩
  omega

namespace Cursor

/-- A place in such a number: behind the mark or a digit, and before `k` digits. -/
structure InNumber (k : Nat) (c : Cursor) : Prop where
  behind : c.before.head? = some 'x' ∨ c.before.head? = some 'f'
  ahead : c.after = List.replicate k 'f' ++ ['_']

namespace InNumber

variable {k : Nat} {c d : Cursor}

/-- There no word ends. -/
lemma not_wordBoundary (h : c.InNumber k) (start : Nat) :
    (Anchor.wordBoundary false).holds start c = false := by
  have words : ['x', 'f', '_'].all (isWord false) = true := by decide +kernel
  simp only [List.all_cons, List.all_nil, Bool.and_true, Bool.and_eq_true] at words
  obtain ⟨mark, digit, underscore⟩ := words
  have precedes : c.wordPrecedes false = true := by
    rcases h.behind with behind | behind
    · rw [wordPrecedes, behind]
      exact mark
    · rw [wordPrecedes, behind]
      exact digit
  have follows : c.wordFollows false = true := by
    rw [wordFollows, h.ahead]
    cases k with
    | zero => exact underscore
    | succ k => exact digit
  simp [Anchor.holds, precedes, follows]

/-- Along the digits one stays in the number. -/
lemma of_mem_alongRun (h : c.InNumber k) (mem : d ∈ alongRun 'f' ['_'] k c.before c.offset) :
    ∃ j, d.InNumber j ∧ d.offset + j = c.offset + k := by
  obtain ⟨j, ahead, reached, behind⟩ := exists_of_mem_alongRun mem
  have one : 'f'.utf8Size = 1 := rfl
  rw [one, Nat.mul_one, Nat.mul_one] at reached
  rcases behind with same | behind
  · exact ⟨j, ⟨same ▸ h.behind, ahead⟩, reached⟩
  · exact ⟨j, ⟨.inr behind, ahead⟩, reached⟩

end InNumber

end Cursor

namespace Plan

open Attempt

variable {s : Search} {callee : Nat → Walk} {t : Attempt} {k : Nat}

/-- A greedy loop over the digits wastes what is wasted behind all of them. -/
lemma wastes_digits {digits : CharSet} (digit : digits.mem 'f' = true)
    (underscore : digits.mem '_' = false) (h : t.cursor.InNumber k) (enough : k ≤ s.turns)
    (inside : t.offset + k ≤ t.limit) {next : Attempt → Outcome} (weight : Cursor → Nat)
    (each : ∀ c j, c.InNumber j → c.offset + j = t.offset + k → ∀ f : Failure,
      Wastes (f.retries + weight c) (next { t.resume f with cursor := c }))
    (watch : Option (List Nat)) :
    Wastes
      (t.retries +
        ((Cursor.alongRun 'f' ['_'] k t.cursor.before t.offset).map weight).sum)
      ((star (set digits) true watch).run s callee t next) := by
  have here : t.cursor = ⟨t.cursor.before, List.replicate k 'f' ++ ['_'], t.offset⟩ := by
    rw [← h.ahead]
    rfl
  have one : 'f'.utf8Size = 1 := rfl
  refine wastes_star digit (by simpa using underscore) here enough (by rwa [one, Nat.mul_one])
    weight (fun c mem f => ?_) watch
  obtain ⟨j, place, reached⟩ := h.of_mem_alongRun mem
  exact each c j place reached f

/-- A suffix that no word ends behind wastes a way for every digit that follows, and one more. -/
lemma wastes_suffix {suffix : CharSet} (digit : suffix.mem 'f' = true)
    (underscore : suffix.mem '_' = false) (h : t.cursor.InNumber k) (enough : k ≤ s.turns)
    (inside : t.offset + k ≤ t.limit) (watch : Option (List Nat)) :
    Wastes (t.retries + t.cursor.after.length)
      ((seq (star (set suffix) true watch) (anchor (.wordBoundary false))).run s callee t .ok) := by
  rw [run]
  refine (wastes_digits digit underscore h enough inside (fun _ => 1) (fun c j place _ f => ?_)
    watch).mono ?_
  · dsimp only
    rw [run]
    dsimp only
    rw [place.not_wordBoundary s.start, if_neg (by simp)]
    exact wastes_giveUp _
  · rw [h.ahead]
    simp [Cursor.length_alongRun]

/--
Digits and a suffix that no word ends behind waste a way for every place where the digits can end
and every place behind it where the suffix can.
-/
lemma wastes_digits_suffix {digits suffix : CharSet} (digit : digits.mem 'f' = true)
    (underscore : digits.mem '_' = false) (digit' : suffix.mem 'f' = true)
    (underscore' : suffix.mem '_' = false) (h : t.cursor.InNumber k)
    (enough : t.offset + k ≤ s.turns) (inside : t.offset + k ≤ t.limit)
    (watch watch' : Option (List Nat)) :
    Wastes ((k + 1) * (k + 2) / 2)
      ((star (set digits) true watch).run s callee t fun u =>
        (seq (star (set suffix) true watch') (anchor (.wordBoundary false))).run s callee u
          .ok) := by
  refine (wastes_digits digit underscore h (by omega) inside (fun c => c.after.length)
    (fun c j place reached f => ?_) watch).mono ?_
  · exact wastes_suffix (t := { t.resume f with cursor := c }) digit' underscore' place (by omega)
      (Nat.le_trans (Nat.le_of_eq reached) inside) watch'
  · have square : 2 * ((Cursor.alongRun 'f' ['_'] k t.cursor.before t.offset).map
        fun c => c.after.length).sum = (k + 1) * (k + 2) :=
      Cursor.sum_length_alongRun k t.cursor.before t.offset
    rw [← square, Nat.mul_div_cancel_left _ Nat.two_pos]
    exact Nat.le_add_left _ _

/-- A number of many digits that goes on with an underscore wastes a way for every two digits. -/
lemma wastes_hexNumber {p : Plan} (h : p.readsHex = true) {n : Nat}
    (many : retryLimit < n * (n + 1) / 2) (enough : n + 2 ≤ s.turns) (size : s.size = n + 3)
    (registers : Registers) :
    Wastes (n * (n + 1) / 2)
      (p.run s callee ⟨⟨[], Text.hexNumber n, 0⟩, s.size, registers, none, 0⟩ .ok) := by
  unfold readsHex at h
  split at h
  · next mark first digits watch other suffix watch' =>
    simp only [Bool.and_eq_true, Bool.not_eq_true'] at h
    obtain ⟨⟨⟨⟨⟨isMark, isFirst⟩, digit⟩, underscore⟩, digit'⟩, underscore'⟩ := h
    obtain ⟨m, rfl⟩ : ∃ m, n = m + 1 := by
      refine Nat.exists_eq_add_one.2 (Nat.pos_of_ne_zero ?_)
      rintro rfl
      exact absurd many (Nat.not_lt_zero _)
    -- the mark and the first digit are read, and the loop over the others begins
    have lead : ∀ k, (seq (text ['0']) (seq (set mark) (seq (set first)
        (star (set digits) true watch)))).run s callee
          ⟨⟨[], Text.hexNumber (m + 1), 0⟩, s.size, registers, none, 0⟩ k =
        (star (set digits) true watch).run s callee
          ⟨⟨['f', 'x', '0'], List.replicate m 'f' ++ ['_'], 3⟩, s.size, registers, none, 0⟩ k := by
      intro k
      have ones : '0'.utf8Size = 1 ∧ 'x'.utf8Size = 1 ∧ 'f'.utf8Size = 1 := ⟨rfl, rfl, rfl⟩
      simp [run, goTo, Cursor.skip?, Cursor.next?, Text.hexNumber, List.replicate_succ, isMark,
        isFirst, size, ones]
    have place : Cursor.InNumber m ⟨['f', 'x', '0'], List.replicate m 'f' ++ ['_'], 3⟩ :=
      ⟨.inr rfl, rfl⟩
    have wasted : Wastes ((m + 1) * (m + 2) / 2)
        ((star (set digits) true watch).run s callee
          ⟨⟨['f', 'x', '0'], List.replicate m 'f' ++ ['_'], 3⟩, s.size, registers, none, 0⟩
          fun u => (seq (star (set suffix) true watch') (anchor (.wordBoundary false))).run s callee
            u .ok) := by
      refine wastes_digits_suffix digit underscore digit' underscore' place ?_ ?_ watch watch'
      · dsimp only [Attempt.offset]
        omega
      · dsimp only [Attempt.offset]
        omega
    -- the word begins here
    have words : Cursor.isWord false '0' = true := by decide +kernel
    have begins : (Anchor.wordBoundary false).holds s.start
        ⟨[], Text.hexNumber (m + 1), 0⟩ = true := by
      simp [Anchor.holds, Cursor.wordFollows, Cursor.wordPrecedes, Text.hexNumber, words]
    rw [run, run]
    dsimp only
    rw [if_pos begins]
    rw [← lead] at wasted
    exact wastes_alt wasted many
  · cases h

end Plan

/--
With a plan for such numbers, the search for one that goes on with an underscore is given up if it
has many digits.
-/
theorem Pattern.givesUp_hexNumber {p : Pattern} (h : p.plan.readsHex = true) {n : Nat}
    (many : Attempt.retryLimit < n * (n + 1) / 2) : p.givesUp (Text.hexNumber n) 0 = true := by
  have size : (p.search (Text.hexNumber n) 0).size = n + 3 := Text.size_hexNumber n
  have turns : n + 2 ≤ (p.search (Text.hexNumber n) 0).turns := by
    dsimp only [search]
    refine Nat.le_trans ?_ (Nat.le_mul_of_pos_right _ (Nat.succ_pos _))
    simp [Text.hexNumber]
  have wasted : Attempt.Wastes (n * (n + 1) / 2)
      (p.attempt (p.search (Text.hexNumber n) 0) ⟨[], Text.hexNumber n, 0⟩) :=
    Plan.wastes_hexNumber h many turns size _
  obtain ⟨f, failed, least⟩ := wasted
  have final : f.isFinal = true := decide_eq_true (by omega)
  have sought : Cursor.seek? [] 0 0 (Text.hexNumber n) = some ⟨[], Text.hexNumber n, 0⟩ := rfl
  rw [givesUp, sought]
  dsimp only
  rw [Text.hexNumber] at failed ⊢
  rw [givesUpFrom, failed]
  dsimp only
  rw [final, Bool.true_or]

/-! ## Plans that cannot begin with a character -/

namespace Plan

open Attempt

/-- Whether a plan reads nothing before a character. -/
def stays (x : Char) : Plan → Bool
  | anchor _ => true
  | star (set chars) true _ => !chars.mem x
  | _ => false

/-- Whether no match can begin with a character. -/
def avoids (x : Char) : Plan → Bool
  | text (y :: _) => x != y
  | set chars => !chars.mem x
  | seq a b => a.avoids x || a.stays x && b.avoids x
  | alt a b => a.avoids x && b.avoids x
  | _ => false

variable {s : Search} {callee : Nat → Walk} {x : Char} {rest : List Char}

/-- A plan that reads nothing goes on from where it is, or fails. -/
lemma run_of_stays {p : Plan} (h : p.stays x = true) {t : Attempt}
    (here : t.cursor.after = x :: rest) (k : Attempt → Outcome) :
    p.run s callee t k = k t ∨ ∃ f, p.run s callee t k = .error f := by
  unfold stays at h
  split at h
  · rw [run]
    dsimp only
    split
    · exact .inl rfl
    · exact .inr ⟨_, rfl⟩
  · next chars watch =>
    have outside : chars.mem x = false := by simpa using h
    have only : setRun chars t.limit s.turns t.cursor [] = [t.cursor] := by
      cases s.turns with
      | zero => rfl
      | succ turns =>
        rw [setRun]
        split
        · next y d next =>
          obtain rfl := Cursor.eq_of_next? here next
          rw [outside]
          rfl
        · rfl
    rw [run]
    dsimp only
    rw [only]
    exact .inl rfl
  · cases h

/-- A plan that cannot begin with a character fails before it. -/
lemma exists_error_of_avoids {p : Plan} (h : p.avoids x = true) {t : Attempt}
    (here : t.cursor.after = x :: rest) (k : Attempt → Outcome) :
    ∃ f, p.run s callee t k = .error f := by
  induction p generalizing t k with
  | text cs =>
    cases cs with
    | nil => cases h
    | cons y cs =>
      have other : x ≠ y := by simpa [avoids] using h
      have stuck : t.cursor.skip? t.limit (y :: cs) = none := by
        rw [Cursor.skip?.eq_def]
        dsimp only
        split
        · next z d next =>
          obtain rfl := Cursor.eq_of_next? here next
          exact if_neg (Ne.symm other)
        · rfl
      rw [run]
      dsimp only
      rw [stuck]
      exact ⟨_, rfl⟩
  | set chars =>
    have outside : chars.mem x = false := by simpa [avoids] using h
    rw [run]
    dsimp only
    split
    · next y d next =>
      obtain rfl := Cursor.eq_of_next? here next
      rw [outside]
      exact ⟨_, rfl⟩
    · exact ⟨_, rfl⟩
  | seq a b iha ihb =>
    rcases Bool.or_eq_true_iff.1 h with ha | hb
    · exact iha ha here _
    · obtain ⟨stays, hb⟩ := Bool.and_eq_true_iff.1 hb
      rw [run]
      dsimp only
      rcases run_of_stays (s := s) stays here (fun t => b.run s callee t k) with same | failed
      · rw [same]
        exact ihb hb here k
      · exact failed
  | alt a b iha ihb =>
    obtain ⟨ha, hb⟩ := Bool.and_eq_true_iff.1 h
    obtain ⟨f, failed⟩ := iha ha here k
    rw [run]
    unfold firstOf
    dsimp only
    rw [failed]
    dsimp only [retry]
    split
    · exact ⟨f, rfl⟩
    · exact ihb hb (t := t.resume f) here k
  | _ => cases h

end Plan

/-- What a pattern finds that cannot begin with the first character of a line starts behind it. -/
theorem Pattern.start_ne_of_avoids {p : Pattern} (on : p.plan.readsOn = true) {x : Char}
    (h : p.plan.avoids x = true) {rest : Text} {r : Match}
    (found : p.find (x :: rest) 0 = some r) : r.start ≠ 0 := by
  have sought : Cursor.seek? [] 0 0 (x :: rest) = some ⟨[], x :: rest, 0⟩ := rfl
  obtain ⟨f, failed⟩ : ∃ f, p.attempt (p.search (x :: rest) 0) ⟨[], x :: rest, 0⟩ = .error f :=
    Plan.exists_error_of_avoids h rfl _
  rw [find, sought] at found
  dsimp only at found
  rw [findFrom, matchAt, failed] at found
  have behind : Cursor.On (x :: rest) ⟨[x], rest, 0 + x.utf8Size⟩ := ⟨rfl, by simp⟩
  have fits := (fits_of_findFrom on behind found).1.le_start
  have pos : 0 < x.utf8Size := Char.utf8Size_pos x
  omega

end Highlighter
