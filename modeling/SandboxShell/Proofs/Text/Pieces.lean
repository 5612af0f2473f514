import SandboxShell.Text.Blank

/-!
Pieces of texts. Cutting a text at its marks undoes gluing pieces that hold none, and a list of words
is read back from the text that has one blank between neighbours.
-/

namespace SandboxShell

namespace Text

theorem before_mark {c : Char} {t : Text} (unmarked : .char c ∉ t) (rest : Text) :
    before c (t ++ .char c :: rest) = t := by
  have front : ∀ s ∈ t, (s != .char c) = true := fun s member =>
    bne_iff_ne.2 fun same => unmarked (same ▸ member)
  rw [before, List.takeWhile_append_of_pos front, List.takeWhile_cons_of_neg (by simp)]
  exact List.append_nil t

theorem after_mark {c : Char} {t : Text} (unmarked : .char c ∉ t) (rest : Text) :
    after c (t ++ .char c :: rest) = rest := by
  have front : ∀ s ∈ t, (s != .char c) = true := fun s member =>
    bne_iff_ne.2 fun same => unmarked (same ▸ member)
  rw [after, List.dropWhile_append_of_pos front, List.dropWhile_cons_of_neg (by simp)]
  rfl

theorem pieces_cons (mark : Symbol → Bool) (x : Symbol) (rest : Text) :
    pieces mark (x :: rest) =
      if mark x then [] :: pieces mark rest
      else (x :: (cut mark rest).1) :: (cut mark rest).2 := by
  by_cases isMark : mark x = true
  · simp only [pieces, cut, isMark, if_true]
  · simp only [pieces, cut, isMark, if_false, Bool.false_eq_true]

theorem mem_pieces {mark : Symbol → Bool} {t piece : Text} (member : piece ∈ pieces mark t) :
    ∀ s ∈ piece, s ∈ t ∧ mark s = false := by
  induction t generalizing piece with
  | nil =>
    rw [List.mem_singleton.1 member]
    intro s inside
    cases inside
  | cons x rest ih =>
    have inRest {piece : Text} (later : piece ∈ pieces mark rest) :
        ∀ s ∈ piece, s ∈ x :: rest ∧ mark s = false :=
      fun s inside => ⟨List.mem_cons_of_mem _ (ih later s inside).1, (ih later s inside).2⟩
    rw [pieces_cons] at member
    by_cases isMark : mark x = true
    · rw [if_pos isMark] at member
      rcases List.mem_cons.1 member with rfl | later
      · intro s inside
        cases inside
      · exact inRest later
    · rw [if_neg isMark] at member
      rcases List.mem_cons.1 member with rfl | later
      · intro s inside
        rcases List.mem_cons.1 inside with rfl | inside
        · exact ⟨List.mem_cons_self, Bool.eq_false_iff.2 isMark⟩
        · have first : (cut mark rest).1 ∈ pieces mark rest := List.mem_cons_self
          exact inRest first s inside
      · exact inRest (List.mem_cons_of_mem _ later)

theorem mem_join {separator : Text} {ts : List Text} {s : Symbol} (member : s ∈ join separator ts) :
    s ∈ separator ∨ ∃ t ∈ ts, s ∈ t := by
  induction ts with
  | nil => cases member
  | cons t rest ih =>
    by_cases alone : rest = []
    · subst alone
      exact .inr ⟨t, List.mem_cons_self, member⟩
    · rw [join_cons separator t alone, List.append_assoc, List.mem_append,
        List.mem_append] at member
      rcases member with here | between | later
      · exact .inr ⟨t, List.mem_cons_self, here⟩
      · exact .inl between
      · rcases ih later with between | ⟨u, inside, holds⟩
        · exact .inl between
        · exact .inr ⟨u, List.mem_cons_of_mem _ inside, holds⟩

theorem join_eq_nil {separator : Text} {ts : List Text} (empty : join separator ts = []) :
    ts = [] ∨ [] ∈ ts := by
  cases ts with
  | nil => exact .inl rfl
  | cons t rest =>
    by_cases alone : rest = []
    · subst alone
      have single : t = [] := empty
      exact .inr (single ▸ List.mem_cons_self)
    · rw [join_cons separator t alone, List.append_assoc, List.append_eq_nil_iff] at empty
      exact .inr (empty.1 ▸ List.mem_cons_self)

theorem join_append {separator : Text} {ts us : List Text} (left : ts ≠ []) (right : us ≠ []) :
    join separator (ts ++ us) = join separator ts ++ separator ++ join separator us := by
  induction ts with
  | nil => exact absurd rfl left
  | cons t ts ih =>
    by_cases alone : ts = []
    · subst alone
      exact join_cons separator t right
    · have more : ts ++ us ≠ [] := List.append_ne_nil_of_left_ne_nil alone us
      rw [List.cons_append, join_cons separator t more, ih alone, join_cons separator t alone]
      simp only [List.append_assoc]

theorem join_append_filled {separator : Text} {ts us : List Text} (filled : ∀ t ∈ ts ++ us, t ≠ []) :
    join separator (ts ++ us) =
      join separator ([join separator ts, join separator us].filter (· ≠ [])) := by
  have something {ts : List Text} (filled : ∀ t ∈ ts, t ≠ []) (some_text : ts ≠ []) :
      join separator ts ≠ [] := fun empty =>
    (join_eq_nil empty).elim some_text fun hollow => filled [] hollow rfl
  have inLeft := something fun t member => filled t (List.mem_append_left us member)
  have inRight := something fun t member => filled t (List.mem_append_right ts member)
  by_cases left : ts = []
  · subst left
    by_cases right : us = []
    · subst right
      rfl
    · simp [join, inRight right]
  · by_cases right : us = []
    · subst right
      simp [join, inLeft left]
    · rw [join_append left right]
      simp [join, inLeft left, inRight right]

theorem join_prefix {separator : Text} {ts us : List Text} (front : ts <+: us) :
    join separator ts <+: join separator us := by
  obtain ⟨more, rfl⟩ := front
  by_cases left : ts = []
  · subst left
    exact List.nil_prefix
  · by_cases right : more = []
    · subst right
      exact ⟨[], (List.append_nil _).trans (congrArg _ (List.append_nil ts).symm)⟩
    · rw [join_append left right, List.append_assoc]
      exact List.prefix_append _ _

theorem pieces_of_unmarked {mark : Symbol → Bool} {t : Text} (unmarked : ∀ s ∈ t, mark s = false) :
    pieces mark t = [t] := by
  have whole := cut_append unmarked []
  rw [List.append_nil] at whole
  simp [pieces, whole, cut]

/-- A mark cuts a text in two. -/
theorem pieces_mark (mark : Symbol → Bool) {separator : Symbol} (marks : mark separator = true)
    (t rest : Text) : pieces mark (t ++ separator :: rest) = pieces mark t ++ pieces mark rest := by
  induction t with
  | nil => rw [List.nil_append, pieces_cons, if_pos marks]; rfl
  | cons x t ih =>
    rw [List.cons_append, pieces_cons, pieces_cons, ih]
    split
    · rfl
    · obtain ⟨first, others⟩ := List.cons.inj (show _ :: _ = _ :: _ from ih)
      rw [first, others]
      rfl

theorem pieces_append {mark : Symbol → Bool} {t : Text} (unmarked : ∀ s ∈ t, mark s = false)
    {separator : Symbol} (marks : mark separator = true) (rest : Text) :
    pieces mark (t ++ separator :: rest) = t :: pieces mark rest := by
  rw [pieces_mark mark marks, pieces_of_unmarked unmarked]
  rfl

theorem splitOn_append (c : Char) (t rest : Text) :
    splitOn c (t ++ [.char c] ++ rest) = splitOn c t ++ splitOn c rest := by
  rw [List.append_assoc, List.singleton_append]
  exact pieces_mark (· == .char c) (beq_self_eq_true _) t rest

theorem pieces_join (mark : Symbol → Bool) {separator : Symbol} (marks : mark separator = true)
    {ts : List Text} (nonempty : ts ≠ []) (unmarked : ∀ t ∈ ts, ∀ s ∈ t, mark s = false) :
    pieces mark (join [separator] ts) = ts := by
  induction ts with
  | nil => contradiction
  | cons t rest ih =>
    have first := unmarked t List.mem_cons_self
    by_cases alone : rest = []
    · subst alone
      exact pieces_of_unmarked first
    · have later := ih alone fun u member => unmarked u (List.mem_cons_of_mem _ member)
      rw [join_cons _ _ alone, List.append_assoc, List.singleton_append,
        pieces_append first marks, later]

theorem splitOn_join {c : Char} {ts : List Text} (nonempty : ts ≠ [])
    (unmarked : ∀ t ∈ ts, Symbol.char c ∉ t) : splitOn c (join [.char c] ts) = ts := by
  apply pieces_join (· == .char c) (beq_self_eq_true _) nonempty
  intro t member s inside
  apply beq_eq_false_iff_ne.2
  rintro rfl
  exact unmarked t member inside

theorem mem_words {t word : Text} (member : word ∈ t.words) :
    word ≠ [] ∧ ∀ s ∈ word, s.isBlank = false := by
  rw [words, List.mem_filter] at member
  constructor
  · rintro rfl
    cases member.2
  · intro s inside
    exact (mem_pieces member.1 s inside).2

theorem words_join {ts : List Text} (filled : ∀ t ∈ ts, t ≠ [])
    (unbroken : ∀ t ∈ ts, ∀ s ∈ t, s.isBlank = false) : words (join " " ts) = ts := by
  by_cases empty : ts = []
  · subst empty
    rfl
  · have blank : Symbol.isBlank (.char ' ') = true := rfl
    have cutting : pieces Symbol.isBlank (join " " ts) = ts :=
      pieces_join Symbol.isBlank blank empty unbroken
    unfold words
    rw [cutting, List.filter_eq_self]
    intro t member
    simpa using filled t member

end Text

end SandboxShell
