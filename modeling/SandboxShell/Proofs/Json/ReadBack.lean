import SandboxShell.Proofs.Json.Number
import SandboxShell.Proofs.Json.Object
import SandboxShell.Proofs.Json.Spelling

/-!
Values written and read back. What is written for a value is read as one value again, before any
text that does not carry a number on, as long as its whole numbers have few enough digits and no
more containers stand inside one another than there is room for. Strings come back respelled, and
so do the names of members.
-/

namespace SandboxShell

namespace Json

open Numeral (Continues)

/-- A value without whole numbers of too many digits, and with at most so many containers inside one
another. -/
inductive Within : Nat → Json → Prop where
  | null {room : Nat} : Within room .null
  | bool {room : Nat} (b : Bool) : Within room (.bool b)
  | integer {room : Nat} (n : Int) (short : (Nat.toDigits 10 n.natAbs).length ≤ digitLimit) :
      Within room (.integer n)
  | real {room : Nat} (x : Binary64) : Within room (.real x)
  | string {room : Nat} (t : Text) : Within room (.string t)
  | array {room : Nat} {items : List Json} (inside : ∀ v ∈ items, Within room v) :
      Within (room + 1) (.array items)
  | object {room : Nat} {members : List (Text × Json)}
      (inside : ∀ member ∈ members, Within room member.2) : Within (room + 1) (.object members)

/-- A value that a value can come back as: it may be spelled otherwise if it is a string, and nothing
is said of it if it is none. -/
def ComesBack (v w : Json) : Prop := ∀ t, v = .string t → w = .string (respelled t)

/-- With room for so many containers, what is written for a value is read as one that it can come
back as, whatever comes after it. -/
def ReadsBack (room : Nat) (v : Json) : Prop :=
  ∀ rest, ¬ Continues rest →
    ∃ w, Takes room (written v ++ rest) (.value w) rest ∧ ComesBack v w

def Begins (s : Symbol) : Prop := isGap s = false ∧ s ≠ .char ']' ∧ s ≠ .char '\x7d'

theorem readScalar_begins {t rest : Text} {v : Json} (read : readScalar t = .ok (v, rest)) :
    ∃ s more, t = s :: more ∧ Begins s := by
  cases t with
  | nil => cases read
  | cons s more =>
    refine ⟨s, more, rfl, Bool.eq_false_iff.2 fun gap => ?_, ?_, ?_⟩
    · unfold isGap at gap
      simp only [Bool.or_eq_true, decide_eq_true_eq] at gap
      rcases gap with ((rfl | rfl) | rfl) | rfl <;> cases read
    · rintro rfl
      cases read
    · rintro rfl
      cases read

theorem Takes.begins {room : Nat} {t rest : Text} {part : Part} (taken : Takes room t part rest) :
    ∃ s more, t = s :: more ∧ Begins s := by
  induction taken with
  | string | noItems | array | noMembers | object | lastMember | member =>
    exact ⟨_, _, rfl, rfl, by decide, by decide⟩
  | scalar _ read => exact readScalar_begins read
  | lastItem _ _ ih | item _ _ _ ih => exact ih

theorem skipGap_of_solid {s : Symbol} (solid : isGap s = false) (rest : Text) :
    skipGap (s :: rest) = s :: rest :=
  List.dropWhile_cons_of_neg (by rw [solid]; decide)

theorem Takes.skipGap_eq {room : Nat} {t rest : Text} {part : Part}
    (taken : Takes room t part rest) : skipGap t = t := by
  obtain ⟨s, more, rfl, solid, -⟩ := taken.begins
  exact skipGap_of_solid solid more

theorem Takes.afterBlank {room : Nat} {t rest : Text} {part : Part}
    (taken : Takes room t part rest) : Takes room (skipGap (.char ' ' :: t)) part rest := by
  have blank : skipGap (.char ' ' :: t) = skipGap t := rfl
  rwa [blank, taken.skipGap_eq]

theorem not_continues_mark {c : Char} (mark : c = ',' ∨ c = ']' ∨ c = '\x7d') (rest : Text) :
    ¬ Continues (.char c :: rest) := by
  intro continues
  rcases mark with rfl | rfl | rfl <;> cases continues with
  | digit digit => cases digit
  | exponent letter => revert letter; decide
  | signed letter => revert letter; decide

theorem takes_scalar (room : Nat) {t rest : Text} {v : Json} (read : readScalar t = .ok (v, rest)) :
    Takes room t (.value v) rest := by
  refine .scalar ?_ read
  rintro ⟨s, first, kind⟩
  obtain ⟨more, rfl⟩ := List.head?_eq_some_iff.1 first
  rcases kind with rfl | rfl | rfl <;> cases read

variable {room : Nat}

theorem readsBack_scalar {v : Json} (other : ∀ t, v ≠ .string t)
    (read : ∀ rest, ¬ Continues rest → ∃ w, readScalar (written v ++ rest) = .ok (w, rest)) :
    ReadsBack room v := by
  intro rest ends
  obtain ⟨w, read⟩ := read rest ends
  exact ⟨w, takes_scalar room read, fun t same => absurd same (other t)⟩

theorem readsBack_integer {n : Int} (short : (Nat.toDigits 10 n.natAbs).length ≤ digitLimit) :
    ReadsBack room (.integer n) := by
  refine readsBack_scalar (fun _ same => nomatch same) fun rest ends => ?_
  have whole := isWhole_toDigits n.natAbs
  cases n with
  | ofNat n =>
    obtain ⟨m, read⟩ := readScalar_integer (.inl rfl) whole short ends
    exact ⟨_, read⟩
  | negSucc n =>
    obtain ⟨m, read⟩ := readScalar_integer (.inr rfl) whole short ends
    exact ⟨_, read⟩

theorem readsBack_real (x : Binary64) : ReadsBack room (.real x) := by
  refine readsBack_scalar (fun _ same => nomatch same) fun rest ends => ?_
  cases x with
  | undefined => exact ⟨_, rfl⟩
  | infinite negative =>
    cases negative
    · exact ⟨_, rfl⟩
    · exact ⟨_, rfl⟩
  | finite negative mantissa exponent =>
    obtain ⟨sign, front, tail, shown, signed, whole, carries⟩ :=
      Binary64.text_finite negative mantissa exponent
    obtain ⟨x, read⟩ := readScalar_real signed whole carries ends
    have form : written (.real (.finite negative mantissa exponent)) =
        (Binary64.finite negative mantissa exponent).text := rfl
    rw [form, shown]
    exact ⟨_, read⟩

theorem written_string (t rest : Text) : written (.string t) ++ rest =
    .char '"' :: (t.flatMap writtenSymbol ++ .char '"' :: rest) := by
  simp [written, writtenString, Text.ofString]

theorem readsBack_string (t : Text) : ReadsBack room (.string t) := by
  intro rest _
  refine ⟨.string (respelled t), ?_, fun u same => ?_⟩
  · rw [written_string]
    exact .string (readString_written _ t rest)
  · obtain rfl := Json.string.inj same
    rfl

theorem join_more (first second : Text) (more : List Text) (rest : Text) :
    Text.join ", " (first :: second :: more) ++ rest =
      first ++ .char ',' :: .char ' ' :: (Text.join ", " (second :: more) ++ rest) := by
  simp [Text.join, Text.ofString]

theorem takes_items {items : List Json} (some : items ≠ [])
    (inside : ∀ v ∈ items, ReadsBack room v) (rest : Text) :
    ∃ vs, Takes room (Text.join ", " (writtenItems items) ++ .char ']' :: rest) (.items vs) rest := by
  induction items with
  | nil => exact absurd rfl some
  | cons v items ih =>
    have first := inside v List.mem_cons_self
    cases items with
    | nil =>
      obtain ⟨w, taken, -⟩ := first (.char ']' :: rest) (not_continues_mark (by decide) rest)
      exact ⟨[w], .lastItem taken (skipGap_of_solid rfl rest)⟩
    | cons u items =>
      obtain ⟨vs, others⟩ :=
        ih (List.cons_ne_nil _ _) fun other member => inside other (List.mem_cons_of_mem _ member)
      obtain ⟨w, taken, -⟩ := first _ (not_continues_mark (.inl rfl) _)
      refine ⟨w :: vs, ?_⟩
      show Takes room (Text.join ", " (written v :: written u :: writtenItems items) ++ _) _ rest
      rw [join_more]
      exact .item taken (skipGap_of_solid rfl _) others.afterBlank

def MemberComesBack (member back : Text × Json) : Prop :=
  back.1 = respelled member.1 ∧ ComesBack member.2 back.2

theorem written_member (name : Text) (v : Json) (rest : Text) :
    writtenString name ++ ": " ++ written v ++ rest =
      .char '"' :: (name.flatMap writtenSymbol ++ .char '"' :: .char ':' :: .char ' ' ::
        (written v ++ rest)) := by
  simp [writtenString, Text.ofString]

theorem takes_members {members : List (Text × Json)} (some : members ≠ [])
    (inside : ∀ member ∈ members, ReadsBack room member.2) (rest : Text) :
    ∃ ps, Takes room (Text.join ", " (writtenMembers members) ++ .char '\x7d' :: rest)
        (.members ps) rest ∧ List.Forall₂ MemberComesBack members ps := by
  induction members with
  | nil => exact absurd rfl some
  | cons member members ih =>
    obtain ⟨name, v⟩ := member
    have first := inside (name, v) List.mem_cons_self
    cases members with
    | nil =>
      obtain ⟨w, taken, back⟩ := first (.char '\x7d' :: rest) (not_continues_mark (by decide) rest)
      refine ⟨[(respelled name, w)], ?_, .cons ⟨rfl, back⟩ .nil⟩
      show Takes room (writtenString name ++ ": " ++ written v ++ _) _ rest
      rw [written_member]
      exact .lastMember (readString_written _ _ _) (skipGap_of_solid rfl _) taken.afterBlank
        (skipGap_of_solid rfl rest)
    | cons other members =>
      obtain ⟨ps, others, backs⟩ :=
        ih (List.cons_ne_nil _ _) fun other member => inside other (List.mem_cons_of_mem _ member)
      obtain ⟨w, taken, back⟩ := first _ (not_continues_mark (.inl rfl) _)
      refine ⟨(respelled name, w) :: ps, ?_, .cons ⟨rfl, back⟩ backs⟩
      show Takes room (Text.join ", " ((writtenString name ++ ": " ++ written v) ::
        (writtenString other.1 ++ ": " ++ written other.2) :: writtenMembers members) ++ _) _ rest
      rw [join_more, written_member]
      exact .member (readString_written _ _ _) (skipGap_of_solid rfl _) taken.afterBlank
        (skipGap_of_solid rfl _) others.afterBlank

theorem written_array (items : List Json) (rest : Text) : written (.array items) ++ rest =
    .char '[' :: (Text.join ", " (writtenItems items) ++ .char ']' :: rest) := by
  simp [written, Text.ofString]

theorem written_object (members : List (Text × Json)) (rest : Text) :
    written (.object members) ++ rest =
      .char '\x7b' :: (Text.join ", " (writtenMembers members) ++ .char '\x7d' :: rest) := by
  simp [written]

theorem objectAt_written {members : List (Text × Json)}
    (inside : ∀ member ∈ members, ReadsBack room member.2) (rest : Text) :
    ∃ ps, ObjectAt (room + 1) (written (.object members) ++ rest) ps rest ∧
      List.Forall₂ MemberComesBack members ps := by
  rw [written_object]
  by_cases none : members = []
  · subst none
    exact ⟨[], .empty (skipGap_of_solid rfl rest), .nil⟩
  · obtain ⟨ps, taken, backs⟩ := takes_members none inside rest
    obtain ⟨s, more, same, -, -, unclosed⟩ := taken.begins
    have gapless := taken.skipGap_eq
    refine ⟨ps, .members ?_ (gapless.symm ▸ taken), backs⟩
    rw [gapless, same]
    exact fun closed => unclosed (Option.some.inj closed)

theorem readsBack {v : Json} (within : Within room v) : ReadsBack room v := by
  induction within with
  | null => exact readsBack_scalar (fun _ same => nomatch same) fun rest _ => ⟨_, rfl⟩
  | bool b =>
    cases b
    · exact readsBack_scalar (fun _ same => nomatch same) fun rest _ => ⟨_, rfl⟩
    · exact readsBack_scalar (fun _ same => nomatch same) fun rest _ => ⟨_, rfl⟩
  | integer n short => exact readsBack_integer short
  | real x => exact readsBack_real x
  | string t => exact readsBack_string t
  | @array room items inside ih =>
    intro rest _
    rw [written_array]
    by_cases none : items = []
    · subst none
      exact ⟨_, .noItems (skipGap_of_solid rfl rest), fun t same => nomatch same⟩
    · obtain ⟨vs, taken⟩ := takes_items none ih rest
      obtain ⟨s, more, same, -, unclosed, -⟩ := taken.begins
      have gapless := taken.skipGap_eq
      refine ⟨_, .array ?_ (gapless.symm ▸ taken), fun t same => nomatch same⟩
      rw [gapless, same]
      exact fun closed => unclosed (Option.some.inj closed)
  | object _ ih =>
    intro rest _
    obtain ⟨ps, object, -⟩ := objectAt_written ih rest
    exact ⟨_, object.takes, fun t same => nomatch same⟩

theorem objectText_written {members : List (Text × Json)} (within : Within room (.object members)) :
    ∃ ps, ObjectText room (written (.object members)) ps ∧
      List.Forall₂ MemberComesBack members ps := by
  cases within with
  | object inside =>
    have back := fun member listed => readsBack (inside member listed)
    obtain ⟨ps, object, backs⟩ := objectAt_written back []
    rw [List.append_nil] at object
    rw [← object.takes.skipGap_eq] at object
    exact ⟨ps, ⟨[], object, rfl⟩, backs⟩

end Json

end SandboxShell
