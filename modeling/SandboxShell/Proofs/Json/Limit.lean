import SandboxShell.Proofs.Json.Taking

/-!
Where the reader of JSON meets its limits. Reading a text, it comes to one value after the other. A
limit ends the reading just when the reader comes, past parts that can all be taken, to a whole
number of too many digits or to a list or an object for which there is no room.
-/

namespace SandboxShell

namespace Json

/-- What the reader is about to read: a value, or the items or members of which one is next. -/
inductive Place where
  | value
  | items
  | members

/-- Reading in front of a text, with room for so many containers, the reader comes to a value in
front of another text, with so much room left for it. -/
inductive Meets : Nat → Place → Text → Nat → Text → Prop where
  | here (room : Nat) (t : Text) : Meets room .value t room t
  | array {room left : Nat} {rest u : Text} (unclosed : (skipGap rest).head? ≠ some (.char ']'))
      (inside : Meets room .items (skipGap rest) left u) :
      Meets (room + 1) .value (.char '[' :: rest) left u
  | object {room left : Nat} {rest u : Text}
      (unclosed : (skipGap rest).head? ≠ some (.char '\x7d'))
      (inside : Meets room .members (skipGap rest) left u) :
      Meets (room + 1) .value (.char '\x7b' :: rest) left u
  | thisItem {room left : Nat} {t u : Text} (inside : Meets room .value t left u) :
      Meets room .items t left u
  | laterItem {room left : Nat} {t rest more u : Text} {v : Json}
      (item : Takes room t (.value v) rest) (comma : skipGap rest = .char ',' :: more)
      (inside : Meets room .items (skipGap more) left u) : Meets room .items t left u
  | thisMember {room left : Nat} {t named value name u : Text}
      (read : readString (.char '"' :: t) t = .ok (name, named))
      (colon : skipGap named = .char ':' :: value)
      (inside : Meets room .value (skipGap value) left u) :
      Meets room .members (.char '"' :: t) left u
  | laterMember {room left : Nat} {t named value rest more name u : Text} {v : Json}
      (read : readString (.char '"' :: t) t = .ok (name, named))
      (colon : skipGap named = .char ':' :: value)
      (member : Takes room (skipGap value) (.value v) rest)
      (comma : skipGap rest = .char ',' :: more)
      (inside : Meets room .members (skipGap more) left u) :
      Meets room .members (.char '"' :: t) left u

/-- The value in front of a text is past a limit. -/
inductive PastLimit : Nat → Text → Fault → Prop where
  | number {room n : Nat} {t : Text} (whole : Numeral.Whole n t) (long : digitLimit < n) :
      PastLimit room t (.tooManyDigits n)
  | array (rest : Text) : PastLimit 0 (.char '[' :: rest) (.tooDeep .array)
  | object (rest : Text) : PastLimit 0 (.char '\x7b' :: rest) (.tooDeep .object)

def Place.RefusedBy (fuel room : Nat) (t : Text) (fault : Fault) : Place → Prop
  | .value => readValue fuel room t = .error fault
  | .items => ∀ done, readItems (fuel + 1) room done t = .error fault
  | .members => ∀ done, readMembers (fuel + 1) room done t = .error fault

theorem not_opens_of_whole {t : Text} {n : Nat} (whole : Numeral.Whole n t) (positive : 0 < n) :
    ¬ Opens t := by
  obtain ⟨sign, digits, rest, rfl, signed, rfl, all, -, -⟩ := whole
  rintro ⟨s, first, kind⟩
  rcases signed with rfl | rfl
  · cases digits with
    | nil => exact absurd positive (by decide)
    | cons d more =>
      obtain rfl : d = s := Option.some.inj first
      have digit := all d List.mem_cons_self
      rcases kind with rfl | rfl | rfl <;> cases digit
  · obtain rfl : Symbol.char '-' = s := Option.some.inj first
    revert kind
    decide

/-- A value past a limit ends each reading that comes to it and has calls enough to do so. -/
theorem Meets.refusedBy {room left : Nat} {place : Place} {t u : Text} {fault : Fault}
    (met : Meets room place t left u) (past : PastLimit left u fault) (fuel : Nat)
    (enough : 2 * t.length + 1 ≤ fuel) : place.RefusedBy fuel room t fault := by
  obtain ⟨calls, rfl⟩ : ∃ calls, fuel = calls + 1 := ⟨fuel - 1, by omega⟩
  induction met generalizing calls with
  | here room t =>
    show readValue _ _ _ = _
    cases past with
    | number whole long =>
      rw [readValue_scalar (not_opens_of_whole whole (Nat.lt_of_le_of_lt (Nat.zero_le _) long))]
      exact readScalar_whole whole long
    | array rest | object rest => rw [readValue]
  | @array room left rest u unclosed inside ih =>
    have gap := skipGap_length_le rest
    rw [List.length_cons] at enough
    obtain ⟨calls, rfl⟩ : ∃ further, calls = further + 2 := ⟨calls - 2, by omega⟩
    show readValue _ _ _ = _
    rw [readValue_array _ _ unclosed]
    exact ih past calls (by omega) []
  | @object room left rest u unclosed inside ih =>
    have gap := skipGap_length_le rest
    rw [List.length_cons] at enough
    obtain ⟨calls, rfl⟩ : ∃ further, calls = further + 2 := ⟨calls - 2, by omega⟩
    show readValue _ _ _ = _
    rw [readValue_object _ _ unclosed]
    exact ih past calls (by omega) []
  | thisItem inside ih =>
    intro done
    have refused : readValue _ _ _ = _ := ih past calls enough
    rw [readItems, refused]
    rfl
  | laterItem item comma inside ih =>
    intro done
    have left := item.length_lt
    have next := length_of_comma comma
    rw [readItems_more done (item.readBy _ enough) comma]
    obtain ⟨calls, rfl⟩ : ∃ further, calls = further + 1 := ⟨calls - 1, by omega⟩
    exact ih past calls (by omega) _
  | thisMember read colon inside ih =>
    intro done
    have before := length_of_name read colon
    rw [List.length_cons] at enough
    have refused : readValue _ _ _ = _ := ih past calls (by omega)
    rw [readMembers]
    simp only [read, colon, refused, bind, Except.bind]
  | laterMember read colon member comma inside ih =>
    intro done
    have before := length_of_name read colon
    have left := member.length_lt
    have next := length_of_comma comma
    rw [List.length_cons] at enough
    rw [readMembers_more done read colon (member.readBy _ (by omega)) comma]
    obtain ⟨calls, rfl⟩ : ∃ further, calls = further + 1 := ⟨calls - 1, by omega⟩
    exact ih past calls (by omega) _

/-- A reading that ends at a limit has come to a value that is past it. -/
theorem meets_of_limit {fault : Fault} (limit : fault.isLimit = true) (calls : Nat) :
    (∀ {room : Nat} {t : Text}, readValue calls room t = .error fault →
      ∃ left u, Meets room .value t left u ∧ PastLimit left u fault) ∧
    (∀ {room : Nat} {done : List Json} {t : Text}, readItems calls room done t = .error fault →
      ∃ left u, Meets room .items t left u ∧ PastLimit left u fault) ∧
    (∀ {room : Nat} {done : List (Text × Json)} {t : Text},
      readMembers calls room done t = .error fault →
      ∃ left u, Meets room .members t left u ∧ PastLimit left u fault) := by
  induction calls with
  | zero =>
    -- running out of calls is told as a malformed text, which is no limit
    have stuck {complaint : Complaint} {t : Text} {α : Type}
        (read : (.error (.malformed complaint t) : Except Fault α) = .error fault) : False := by
      obtain rfl := Except.error.inj read
      cases limit
    exact ⟨fun read => (stuck read).elim, fun read => (stuck read).elim,
      fun read => (stuck read).elim⟩
  | succ calls ih =>
    obtain ⟨value, items, members⟩ := ih
    refine ⟨?_, ?_, ?_⟩
    · intro room t read
      have call := readValue_call calls room t
      generalize readValue (calls + 1) room t = result at call read
      cases call with
      | string room rest =>
        have shrinks := readString_shrinks (.char '"' :: rest) rest
        cases string : readString (.char '"' :: rest) rest with
        | ok pair => simp [string, Except.map] at read
        | error other =>
          simp only [string, Except.map] at read
          obtain rfl := Except.error.inj read
          rw [string] at shrinks
          cases limit.symm.trans shrinks
      | deepArray rest =>
        obtain rfl := Except.error.inj read
        exact ⟨0, _, .here _ _, .array rest⟩
      | deepObject rest =>
        obtain rfl := Except.error.inj read
        exact ⟨0, _, .here _ _, .object rest⟩
      | noItems | noMembers => cases read
      | array room unclosed =>
        obtain ⟨left, u, inside, past⟩ := items read
        exact ⟨left, u, .array unclosed inside, past⟩
      | object room unclosed =>
        obtain ⟨left, u, inside, past⟩ := members read
        exact ⟨left, u, .object unclosed inside, past⟩
      | scalar room plain =>
        obtain ⟨n, rfl, long, whole⟩ := readScalar_limit read limit
        exact ⟨room, t, .here room t, .number whole long⟩
    · intro room done t read
      have call := readItems_call calls room done t
      generalize readItems (calls + 1) room done t = result at call read
      cases call with
      | refused item =>
        obtain rfl := Except.error.inj read
        obtain ⟨left, u, inside, past⟩ := value item
        exact ⟨left, u, .thisItem inside, past⟩
      | last => cases read
      | more item comma =>
        obtain ⟨left, u, inside, past⟩ := items read
        exact ⟨left, u, .laterItem ((takes_of_read calls).1 item) comma inside, past⟩
      | stuck =>
        obtain rfl := Except.error.inj read
        cases limit
    · intro room done t read
      have call := readMembers_call calls room done t
      generalize readMembers (calls + 1) room done t = result at call read
      cases call with
      | refused string colon member =>
        obtain rfl := Except.error.inj read
        obtain ⟨left, u, inside, past⟩ := value member
        exact ⟨left, u, .thisMember string colon inside, past⟩
      | last => cases read
      | more string colon member comma =>
        obtain ⟨left, u, inside, past⟩ := members read
        exact ⟨left, u, .laterMember string colon ((takes_of_read calls).1 member) comma inside,
          past⟩
      | stuck =>
        obtain rfl := Except.error.inj read
        cases limit

def MeetsLimit (room : Nat) (t : Text) (fault : Fault) : Prop :=
  ¬ Marked t ∧ ∃ left u, Meets room .value (skipGap t) left u ∧ PastLimit left u fault

theorem read_limit_iff {room : Nat} {t : Text} {fault : Fault} (limit : fault.isLimit = true) :
    read room t = .error fault ↔ MeetsLimit room t fault := by
  have enough : 2 * (skipGap t).length + 1 ≤ 2 * t.length + 1 := by
    have gap := skipGap_length_le t
    omega
  unfold MeetsLimit
  by_cases marked : Marked t
  · rw [read_of_marked marked]
    refine iff_of_false (fun same => ?_) (fun both => both.1 marked)
    obtain rfl := Except.error.inj same
    cases limit
  · rw [read_of_not_marked marked]
    constructor
    · intro read
      refine ⟨marked, ?_⟩
      cases value : readValue (2 * t.length + 1) room (skipGap t) with
      | error other =>
        simp only [value, bind, Except.bind] at read
        obtain rfl := Except.error.inj read
        exact (meets_of_limit limit _).1 value
      | ok pair =>
        simp only [value, bind, Except.bind] at read
        split at read
        · cases read
        · obtain rfl := Except.error.inj read
          cases limit
    · rintro ⟨-, left, u, met, past⟩
      have refused : readValue _ _ _ = _ := met.refusedBy past _ enough
      rw [refused]
      rfl

end Json

end SandboxShell
