import SandboxShell.Path.Lexical

/-!
The two parts of a path at its last slash. A name without slashes put under a directory is the base
name of the result, and the directory is found again as the part before it, unless it is empty or
ends in a slash.
-/

namespace SandboxShell

namespace Path

def IsName (name : Text) : Prop := Symbol.char '/' ∉ name

theorem isName_baseName (p : Path) : IsName (baseName p) := by
  intro member
  have unmarked := List.all_eq_true.1 List.all_takeWhile _ (List.mem_reverse.1 member)
  simp at unmarked

theorem IsName.relative {name : Text} (isName : IsName name) : isAbsolute name = false := by
  unfold isAbsolute
  split
  · exact absurd List.mem_cons_self isName
  · rfl

theorem IsName.unmarked {name : Text} (isName : IsName name) :
    ∀ s ∈ name.reverse, (s != Symbol.char '/') = true := by
  intro s member
  rw [bne_iff_ne]
  rintro rfl
  exact isName (List.mem_reverse.1 member)

theorem baseName_slash (d : Path) {name : Text} (isName : IsName name) :
    baseName (d ++ .char '/' :: name) = name := by
  unfold baseName
  rw [List.reverse_append, List.reverse_cons, List.append_assoc,
    List.takeWhile_append_of_pos isName.unmarked]
  simp

theorem IsName.baseName_eq {name : Text} (isName : IsName name) : baseName name = name := by
  have whole : name.reverse.takeWhile (· != Symbol.char '/') = name.reverse := by
    rw [← List.append_nil name.reverse, List.takeWhile_append_of_pos isName.unmarked,
      List.takeWhile_nil]
  unfold baseName
  rw [whole, List.reverse_reverse]

theorem baseName_under (d : Path) {name : Text} (isName : IsName name) :
    baseName (under d name) = name := by
  unfold under
  rw [isName.relative, if_neg (by decide)]
  split
  · rename_i closed
    rcases closed with rfl | slash
    · exact isName.baseName_eq
    · obtain ⟨stem, rfl⟩ := List.getLast?_eq_some_iff.1 slash
      rw [List.append_assoc]
      exact baseName_slash stem isName
  · rw [List.append_assoc]
    exact baseName_slash d isName

theorem dirName_slash {d : Path} {name : Text} (isName : IsName name) (somewhere : d ≠ [])
    (open_end : d.getLast? ≠ some (.char '/')) : dirName (d ++ .char '/' :: name) = d := by
  have stem : d.reverse.dropWhile (· == Symbol.char '/') = d.reverse := by
    apply List.dropWhile_beq_eq_self_of_head?_ne
    rw [List.head?_reverse]
    exact open_end
  unfold dirName
  rw [List.reverse_append, List.reverse_cons, List.append_assoc,
    List.dropWhile_append_of_pos isName.unmarked]
  simp [stem, somewhere]

theorem under_eq {d : Path} {name : Text} (isName : IsName name) (somewhere : d ≠ [])
    (open_end : d.getLast? ≠ some (.char '/')) : under d name = d ++ .char '/' :: name := by
  unfold under
  rw [isName.relative, if_neg (by decide), if_neg (by simp [somewhere, open_end])]
  simp [Text.ofString]

theorem digit_of_mem_digits {width n : Nat} {s : Symbol} (member : s ∈ Text.digits 10 width n) :
    ∃ c : Char, c.isDigit = true ∧ Symbol.char c = s := by
  obtain ⟨c, shown, same⟩ := List.mem_map.1 member
  refine ⟨c, ?_, same⟩
  rcases List.mem_append.1 shown with zero | digit
  · rw [(List.mem_replicate.1 zero).2]
    decide
  · exact Nat.isDigit_of_mem_toDigits (by decide) (by decide) digit

theorem isName_digits (width n : Nat) : IsName (Text.digits 10 width n) := by
  intro slash
  obtain ⟨c, digit, same⟩ := digit_of_mem_digits slash
  obtain rfl := Symbol.char.inj same
  cases digit

end Path

end SandboxShell
