import SandboxShell.Proofs.Json.Token

/-!
What the reader of values takes from the front of a text, told without counting its calls. With a
call for each end of each symbol the reader takes just that, and a reader with fewer calls takes
nothing else.
-/

namespace SandboxShell

namespace Json

/-- What can stand in front of a text: a value, or the rest of a list or of an object from an item
or a member on. -/
inductive Part where
  | value (v : Json)
  | items (vs : List Json)
  | members (ps : List (Text × Json))

def putAll (done ps : List (Text × Json)) : List (Text × Json) :=
  ps.foldl (fun done p => Entries.put p.1 p.2 done) done

def Opens (t : Text) : Prop :=
  ∃ s ∈ t.head?, s = .char '"' ∨ s = .char '[' ∨ s = .char '\x7b'

/-- With room for so many containers, a part stands in front of a text, and the other text after
it. -/
inductive Takes : Nat → Text → Part → Text → Prop where
  | string {room : Nat} {rest s after : Text}
      (read : readString (.char '"' :: rest) rest = .ok (s, after)) :
      Takes room (.char '"' :: rest) (.value (.string s)) after
  | scalar {room : Nat} {t rest : Text} {v : Json} (plain : ¬ Opens t)
      (read : readScalar t = .ok (v, rest)) : Takes room t (.value v) rest
  | noItems {room : Nat} {rest after : Text} (closed : skipGap rest = .char ']' :: after) :
      Takes (room + 1) (.char '[' :: rest) (.value (.array [])) after
  | array {room : Nat} {rest after : Text} {vs : List Json}
      (unclosed : (skipGap rest).head? ≠ some (.char ']'))
      (inside : Takes room (skipGap rest) (.items vs) after) :
      Takes (room + 1) (.char '[' :: rest) (.value (.array vs)) after
  | lastItem {room : Nat} {t rest after : Text} {v : Json} (item : Takes room t (.value v) rest)
      (closed : skipGap rest = .char ']' :: after) : Takes room t (.items [v]) after
  | item {room : Nat} {t rest more after : Text} {v : Json} {vs : List Json}
      (item : Takes room t (.value v) rest) (comma : skipGap rest = .char ',' :: more)
      (others : Takes room (skipGap more) (.items vs) after) : Takes room t (.items (v :: vs)) after
  | noMembers {room : Nat} {rest after : Text} (closed : skipGap rest = .char '\x7d' :: after) :
      Takes (room + 1) (.char '\x7b' :: rest) (.value (.object [])) after
  | object {room : Nat} {rest after : Text} {ps : List (Text × Json)}
      (unclosed : (skipGap rest).head? ≠ some (.char '\x7d'))
      (inside : Takes room (skipGap rest) (.members ps) after) :
      Takes (room + 1) (.char '\x7b' :: rest) (.value (.object (putAll [] ps))) after
  | lastMember {room : Nat} {t named value rest after name : Text} {v : Json}
      (read : readString (.char '"' :: t) t = .ok (name, named))
      (colon : skipGap named = .char ':' :: value)
      (member : Takes room (skipGap value) (.value v) rest)
      (closed : skipGap rest = .char '\x7d' :: after) :
      Takes room (.char '"' :: t) (.members [(name, v)]) after
  | member {room : Nat} {t named value rest more after name : Text} {v : Json}
      {ps : List (Text × Json)} (read : readString (.char '"' :: t) t = .ok (name, named))
      (colon : skipGap named = .char ':' :: value)
      (member : Takes room (skipGap value) (.value v) rest)
      (comma : skipGap rest = .char ',' :: more)
      (others : Takes room (skipGap more) (.members ps) after) :
      Takes room (.char '"' :: t) (.members ((name, v) :: ps)) after

theorem readValue_scalar {fuel room : Nat} {t : Text} (plain : ¬ Opens t) :
    readValue (fuel + 1) room t = readScalar t := by
  unfold readValue
  split
  · exact absurd ⟨_, rfl, .inl rfl⟩ plain
  · exact absurd ⟨_, rfl, .inr (.inl rfl)⟩ plain
  · exact absurd ⟨_, rfl, .inr (.inl rfl)⟩ plain
  · exact absurd ⟨_, rfl, .inr (.inr rfl)⟩ plain
  · exact absurd ⟨_, rfl, .inr (.inr rfl)⟩ plain
  · rfl

theorem readValue_string (fuel room : Nat) (rest : Text) :
    readValue (fuel + 1) room (.char '"' :: rest) =
      (readString (.char '"' :: rest) rest).map fun (s, after) => (.string s, after) := by
  rw [readValue]

theorem readValue_array (fuel room : Nat) {rest : Text}
    (unclosed : (skipGap rest).head? ≠ some (.char ']')) :
    readValue (fuel + 1) (room + 1) (.char '[' :: rest) =
      readItems fuel room [] (skipGap rest) := by
  rw [readValue]
  split
  · rename_i closed
    rw [closed] at unclosed
    exact absurd rfl unclosed
  · rfl

theorem readValue_noItems (fuel room : Nat) {rest after : Text}
    (closed : skipGap rest = .char ']' :: after) :
    readValue (fuel + 1) (room + 1) (.char '[' :: rest) = .ok (.array [], after) := by
  rw [readValue, closed]
  rfl

theorem readValue_object (fuel room : Nat) {rest : Text}
    (unclosed : (skipGap rest).head? ≠ some (.char '\x7d')) :
    readValue (fuel + 1) (room + 1) (.char '\x7b' :: rest) =
      readMembers fuel room [] (skipGap rest) := by
  rw [readValue]
  split
  · rename_i closed
    rw [closed] at unclosed
    exact absurd rfl unclosed
  · rfl

theorem readValue_noMembers (fuel room : Nat) {rest after : Text}
    (closed : skipGap rest = .char '\x7d' :: after) :
    readValue (fuel + 1) (room + 1) (.char '\x7b' :: rest) = .ok (.object [], after) := by
  rw [readValue, closed]
  rfl

theorem readItems_last {fuel room : Nat} {t rest after : Text} {v : Json} (done : List Json)
    (item : readValue fuel room t = .ok (v, rest)) (closed : skipGap rest = .char ']' :: after) :
    readItems (fuel + 1) room done t = .ok (.array (v :: done).reverse, after) := by
  rw [readItems, item]
  simp only [bind, Except.bind, closed]

theorem readItems_more {fuel room : Nat} {t rest more : Text} {v : Json} (done : List Json)
    (item : readValue fuel room t = .ok (v, rest)) (comma : skipGap rest = .char ',' :: more) :
    readItems (fuel + 1) room done t = readItems fuel room (v :: done) (skipGap more) := by
  rw [readItems, item]
  simp only [bind, Except.bind, comma]

theorem readMembers_last {fuel room : Nat} {t named value rest after name : Text} {v : Json}
    (done : List (Text × Json)) (read : readString (.char '"' :: t) t = .ok (name, named))
    (colon : skipGap named = .char ':' :: value)
    (member : readValue fuel room (skipGap value) = .ok (v, rest))
    (closed : skipGap rest = .char '\x7d' :: after) :
    readMembers (fuel + 1) room done (.char '"' :: t) =
      .ok (.object (Entries.put name v done), after) := by
  rw [readMembers]
  simp only [read, colon, member, bind, Except.bind, closed]

theorem readMembers_more {fuel room : Nat} {t named value rest more name : Text} {v : Json}
    (done : List (Text × Json)) (read : readString (.char '"' :: t) t = .ok (name, named))
    (colon : skipGap named = .char ':' :: value)
    (member : readValue fuel room (skipGap value) = .ok (v, rest))
    (comma : skipGap rest = .char ',' :: more) :
    readMembers (fuel + 1) room done (.char '"' :: t) =
      readMembers fuel room (Entries.put name v done) (skipGap more) := by
  rw [readMembers]
  simp only [read, colon, member, bind, Except.bind, comma]

theorem length_of_skipGap {t rest : Text} {s : Symbol} (met : skipGap t = s :: rest) :
    rest.length < t.length := by
  have length := skipGap_length_le t
  rw [met] at length
  exact length

theorem length_of_readString {t rest s : Text}
    (read : readString (.char '"' :: t) t = .ok (s, rest)) : rest.length < t.length := by
  have shrinks := readString_shrinks (.char '"' :: t) t
  rw [read] at shrinks
  exact shrinks

theorem length_of_name {t named value name : Text}
    (read : readString (.char '"' :: t) t = .ok (name, named))
    (colon : skipGap named = .char ':' :: value) : (skipGap value).length + 2 ≤ t.length := by
  have first := length_of_readString read
  have second := length_of_skipGap colon
  have gap := skipGap_length_le value
  omega

theorem length_of_comma {rest more : Text} (comma : skipGap rest = .char ',' :: more) :
    (skipGap more).length + 1 ≤ rest.length :=
  Nat.le_trans (Nat.succ_le_succ (skipGap_length_le more)) (length_of_skipGap comma)

theorem Takes.length_lt {room : Nat} {t rest : Text} {part : Part}
    (taken : Takes room t part rest) : rest.length < t.length := by
  induction taken with
  | string read => exact Nat.lt_succ_of_lt (length_of_readString read)
  | scalar _ read => exact readScalar_length read
  | noItems closed | noMembers closed => exact Nat.lt_succ_of_lt (length_of_skipGap closed)
  | @array _ rest _ _ _ _ ih | @object _ rest _ _ _ _ ih =>
    exact Nat.lt_succ_of_lt (Nat.lt_of_lt_of_le ih (skipGap_length_le rest))
  | lastItem _ closed ih => exact Nat.lt_trans (length_of_skipGap closed) ih
  | item _ comma _ ih others =>
    have next := length_of_comma comma
    omega
  | lastMember read colon _ closed ih =>
    have before := length_of_name read colon
    have left := length_of_skipGap closed
    rw [List.length_cons]
    omega
  | member read colon _ comma _ ih others =>
    have before := length_of_name read colon
    have next := length_of_comma comma
    rw [List.length_cons]
    omega

def Part.ReadBy (fuel room : Nat) (t rest : Text) : Part → Prop
  | .value v => readValue fuel room t = .ok (v, rest)
  | .items vs => ∀ done, readItems (fuel + 1) room done t = .ok (.array (done.reverse ++ vs), rest)
  | .members ps => ∀ done, readMembers (fuel + 1) room done t = .ok (.object (putAll done ps), rest)

/-- What can be taken is read, given a call for each end of each symbol. -/
theorem Takes.readBy {room : Nat} {t rest : Text} {part : Part} (taken : Takes room t part rest)
    (fuel : Nat) (enough : 2 * t.length + 1 ≤ fuel) : part.ReadBy fuel room t rest := by
  obtain ⟨calls, rfl⟩ : ∃ calls, fuel = calls + 1 := ⟨fuel - 1, by omega⟩
  -- by what is taken: each part inside has lost a symbol for every two calls made to reach it
  induction taken generalizing calls with
  | string read =>
    show readValue _ _ _ = _
    rw [readValue_string, read]
    rfl
  | scalar plain read =>
    show readValue _ _ _ = _
    rw [readValue_scalar plain, read]
  | noItems closed => exact readValue_noItems calls _ closed
  | noMembers closed => exact readValue_noMembers calls _ closed
  | @array _ rest _ _ unclosed inside ih =>
    have gap := skipGap_length_le rest
    rw [List.length_cons] at enough
    obtain ⟨calls, rfl⟩ : ∃ further, calls = further + 2 := ⟨calls - 2, by omega⟩
    show readValue _ _ _ = _
    rw [readValue_array _ _ unclosed]
    exact ih calls (by omega) []
  | @object _ rest _ _ unclosed inside ih =>
    have gap := skipGap_length_le rest
    rw [List.length_cons] at enough
    obtain ⟨calls, rfl⟩ : ∃ further, calls = further + 2 := ⟨calls - 2, by omega⟩
    show readValue _ _ _ = _
    rw [readValue_object _ _ unclosed]
    exact ih calls (by omega) []
  | lastItem item closed ih =>
    intro done
    rw [readItems_last done (ih calls enough) closed, List.reverse_cons]
  | item item comma others ih ihOthers =>
    intro done
    have left := item.length_lt
    have next := length_of_comma comma
    rw [readItems_more done (ih calls enough) comma]
    obtain ⟨calls, rfl⟩ : ∃ further, calls = further + 1 := ⟨calls - 1, by omega⟩
    rw [ihOthers calls (by omega) (_ :: done), List.reverse_cons, List.append_assoc]
    rfl
  | lastMember read colon member closed ih =>
    intro done
    have before := length_of_name read colon
    rw [List.length_cons] at enough
    exact readMembers_last done read colon (ih calls (by omega)) closed
  | member read colon member comma others ih ihOthers =>
    intro done
    have before := length_of_name read colon
    have left := member.length_lt
    have next := length_of_comma comma
    rw [List.length_cons] at enough
    rw [readMembers_more done read colon (ih calls (by omega)) comma]
    obtain ⟨calls, rfl⟩ : ∃ further, calls = further + 1 := ⟨calls - 1, by omega⟩
    exact ihOthers calls (by omega) (Entries.put _ _ done)

/-- What one call of the reader of values comes to. -/
inductive ValueCall (calls : Nat) : Nat → Text → Except Fault (Json × Text) → Prop where
  | string (room : Nat) (rest : Text) : ValueCall calls room (.char '"' :: rest)
      ((readString (.char '"' :: rest) rest).map fun (s, after) => (.string s, after))
  | deepArray (rest : Text) : ValueCall calls 0 (.char '[' :: rest) (.error (.tooDeep .array))
  | deepObject (rest : Text) : ValueCall calls 0 (.char '\x7b' :: rest) (.error (.tooDeep .object))
  | noItems (room : Nat) {rest after : Text} (closed : skipGap rest = .char ']' :: after) :
      ValueCall calls (room + 1) (.char '[' :: rest) (.ok (.array [], after))
  | array (room : Nat) {rest : Text} (unclosed : (skipGap rest).head? ≠ some (.char ']')) :
      ValueCall calls (room + 1) (.char '[' :: rest) (readItems calls room [] (skipGap rest))
  | noMembers (room : Nat) {rest after : Text} (closed : skipGap rest = .char '\x7d' :: after) :
      ValueCall calls (room + 1) (.char '\x7b' :: rest) (.ok (.object [], after))
  | object (room : Nat) {rest : Text} (unclosed : (skipGap rest).head? ≠ some (.char '\x7d')) :
      ValueCall calls (room + 1) (.char '\x7b' :: rest) (readMembers calls room [] (skipGap rest))
  | scalar (room : Nat) {t : Text} (plain : ¬ Opens t) : ValueCall calls room t (readScalar t)

theorem readValue_call (calls room : Nat) (t : Text) :
    ValueCall calls room t (readValue (calls + 1) room t) := by
  by_cases opens : Opens t
  · obtain ⟨s, first, kind⟩ := opens
    obtain ⟨rest, rfl⟩ := List.head?_eq_some_iff.1 first
    rcases kind with rfl | rfl | rfl
    · rw [readValue_string]
      exact .string room rest
    · cases room with
      | zero => exact .deepArray rest
      | succ room =>
        by_cases closed : (skipGap rest).head? = some (.char ']')
        · obtain ⟨after, closed⟩ := List.head?_eq_some_iff.1 closed
          rw [readValue_noItems _ _ closed]
          exact .noItems room closed
        · rw [readValue_array _ _ closed]
          exact .array room closed
    · cases room with
      | zero => exact .deepObject rest
      | succ room =>
        by_cases closed : (skipGap rest).head? = some (.char '\x7d')
        · obtain ⟨after, closed⟩ := List.head?_eq_some_iff.1 closed
          rw [readValue_noMembers _ _ closed]
          exact .noMembers room closed
        · rw [readValue_object _ _ closed]
          exact .object room closed
  · rw [readValue_scalar opens]
    exact .scalar room opens

inductive ItemsCall (calls room : Nat) (done : List Json) (t : Text) :
    Except Fault (Json × Text) → Prop where
  | refused {fault : Fault} (item : readValue calls room t = .error fault) :
      ItemsCall calls room done t (.error fault)
  | last {v : Json} {rest after : Text} (item : readValue calls room t = .ok (v, rest))
      (closed : skipGap rest = .char ']' :: after) :
      ItemsCall calls room done t (.ok (.array (v :: done).reverse, after))
  | more {v : Json} {rest more : Text} (item : readValue calls room t = .ok (v, rest))
      (comma : skipGap rest = .char ',' :: more) :
      ItemsCall calls room done t (readItems calls room (v :: done) (skipGap more))
  | stuck (complaint : Complaint) (unread : Text) :
      ItemsCall calls room done t (.error (.malformed complaint unread))

theorem readItems_call (calls room : Nat) (done : List Json) (t : Text) :
    ItemsCall calls room done t (readItems (calls + 1) room done t) := by
  cases item : readValue calls room t with
  | error fault =>
    rw [readItems, item]
    exact .refused item
  | ok pair =>
    obtain ⟨v, rest⟩ := pair
    rw [readItems, item]
    simp only [bind, Except.bind]
    split
    · rename_i closed
      exact .last item closed
    · rename_i comma
      exact .more item comma
    · exact .stuck _ _

inductive MembersCall (calls room : Nat) (done : List (Text × Json)) :
    Text → Except Fault (Json × Text) → Prop where
  | refused {t named value name : Text} {fault : Fault}
      (read : readString (.char '"' :: t) t = .ok (name, named))
      (colon : skipGap named = .char ':' :: value)
      (member : readValue calls room (skipGap value) = .error fault) :
      MembersCall calls room done (.char '"' :: t) (.error fault)
  | last {t named value rest after name : Text} {v : Json}
      (read : readString (.char '"' :: t) t = .ok (name, named))
      (colon : skipGap named = .char ':' :: value)
      (member : readValue calls room (skipGap value) = .ok (v, rest))
      (closed : skipGap rest = .char '\x7d' :: after) :
      MembersCall calls room done (.char '"' :: t)
        (.ok (.object (Entries.put name v done), after))
  | more {t named value rest more name : Text} {v : Json}
      (read : readString (.char '"' :: t) t = .ok (name, named))
      (colon : skipGap named = .char ':' :: value)
      (member : readValue calls room (skipGap value) = .ok (v, rest))
      (comma : skipGap rest = .char ',' :: more) :
      MembersCall calls room done (.char '"' :: t)
        (readMembers calls room (Entries.put name v done) (skipGap more))
  | stuck (t : Text) (complaint : Complaint) (unread : Text) :
      MembersCall calls room done t (.error (.malformed complaint unread))

theorem readMembers_call (calls room : Nat) (done : List (Text × Json)) (t : Text) :
    MembersCall calls room done t (readMembers (calls + 1) room done t) := by
  unfold readMembers
  split
  · rename_i t
    have shrinks := readString_shrinks (.char '"' :: t) t
    cases read : readString (.char '"' :: t) t with
    | error fault =>
      rw [read] at shrinks
      cases fault with
      | malformed complaint unread => exact .stuck _ _ _
      | tooManyDigits | tooDeep => cases shrinks
    | ok pair =>
      obtain ⟨name, named⟩ := pair
      simp only [bind, Except.bind]
      split
      · rename_i value colon
        cases member : readValue calls room (skipGap value) with
        | error fault => exact .refused read colon member
        | ok pair =>
          obtain ⟨v, rest⟩ := pair
          simp only
          split
          · rename_i closed
            exact .last read colon member closed
          · rename_i comma
            exact .more read colon member comma
          · exact .stuck _ _ _
      · exact .stuck _ _ _
  · exact .stuck _ _ _

/-- What is read, with however few calls, can be taken. -/
theorem takes_of_read (calls : Nat) :
    (∀ {room : Nat} {t rest : Text} {v : Json}, readValue calls room t = .ok (v, rest) →
      Takes room t (.value v) rest) ∧
    (∀ {room : Nat} {done : List Json} {t rest : Text} {v : Json},
      readItems calls room done t = .ok (v, rest) →
      ∃ vs, v = .array (done.reverse ++ vs) ∧ Takes room t (.items vs) rest) ∧
    (∀ {room : Nat} {done : List (Text × Json)} {t rest : Text} {v : Json},
      readMembers calls room done t = .ok (v, rest) →
      ∃ ps, v = .object (putAll done ps) ∧ Takes room t (.members ps) rest) := by
  -- the three readers call each other with one call less, so they are followed together
  induction calls with
  | zero =>
    refine ⟨?_, ?_, ?_⟩
    · intro room t rest v read
      cases read
    · intro room done t rest v read
      cases read
    · intro room done t rest v read
      cases read
  | succ calls ih =>
    obtain ⟨value, items, members⟩ := ih
    refine ⟨?_, ?_, ?_⟩
    · intro room t rest v read
      have call := readValue_call calls room t
      generalize readValue (calls + 1) room t = result at call read
      cases call with
      | string room rest =>
        cases string : readString (.char '"' :: rest) rest with
        | error fault => simp [string, Except.map] at read
        | ok pair =>
          simp only [string, Except.map] at read
          obtain ⟨rfl, rfl⟩ := Prod.mk.inj (Except.ok.inj read)
          exact .string string
      | deepArray | deepObject => cases read
      | noItems room closed =>
        obtain ⟨rfl, rfl⟩ := Prod.mk.inj (Except.ok.inj read)
        exact .noItems closed
      | noMembers room closed =>
        obtain ⟨rfl, rfl⟩ := Prod.mk.inj (Except.ok.inj read)
        exact .noMembers closed
      | array room unclosed =>
        obtain ⟨vs, rfl, inside⟩ := items read
        exact .array unclosed inside
      | object room unclosed =>
        obtain ⟨ps, rfl, inside⟩ := members read
        exact .object unclosed inside
      | scalar room plain => exact .scalar plain read
    · intro room done t rest v read
      have call := readItems_call calls room done t
      generalize readItems (calls + 1) room done t = result at call read
      cases call with
      | refused | stuck => cases read
      | @last item _ _ first closed =>
        obtain ⟨rfl, rfl⟩ := Prod.mk.inj (Except.ok.inj read)
        exact ⟨[item], by rw [List.reverse_cons], .lastItem (value first) closed⟩
      | @more item _ _ first comma =>
        obtain ⟨vs, rfl, others⟩ := items read
        refine ⟨item :: vs, ?_, .item (value first) comma others⟩
        rw [List.reverse_cons, List.append_assoc]
        rfl
    · intro room done t rest v read
      have call := readMembers_call calls room done t
      generalize readMembers (calls + 1) room done t = result at call read
      cases call with
      | refused | stuck => cases read
      | @last _ _ _ _ _ name item string colon first closed =>
        obtain ⟨rfl, rfl⟩ := Prod.mk.inj (Except.ok.inj read)
        exact ⟨[(name, item)], rfl, .lastMember string colon (value first) closed⟩
      | @more _ _ _ _ _ name item string colon first comma =>
        obtain ⟨ps, rfl, others⟩ := members read
        exact ⟨(name, item) :: ps, rfl, .member string colon (value first) comma others⟩

theorem readValue_eq_ok_iff {fuel room : Nat} {t rest : Text} {v : Json}
    (enough : 2 * t.length + 1 ≤ fuel) :
    readValue fuel room t = .ok (v, rest) ↔ Takes room t (.value v) rest :=
  ⟨(takes_of_read fuel).1, fun taken => taken.readBy fuel enough⟩

def Marked (t : Text) : Prop := t.head? = some (.char '\uFEFF')

theorem read_of_not_marked {room : Nat} {t : Text} (unmarked : ¬ Marked t) :
    read room t = (do
      let (value, rest) ← readValue (2 * t.length + 1) room (skipGap t)
      match skipGap rest with
      | [] => .ok value
      | extra => .error (.malformed .extra extra)) := by
  unfold read
  split
  · exact absurd rfl unmarked
  · rfl

theorem read_of_marked {room : Nat} {t : Text} (marked : Marked t) :
    read room t = .error (.malformed .byteOrderMark t) := by
  obtain ⟨rest, rfl⟩ := List.head?_eq_some_iff.1 marked
  rfl

/-- A whole text is read as a value just when the value stands in it alone, between gaps. -/
theorem read_eq_ok_iff {room : Nat} {t : Text} {v : Json} :
    read room t = .ok v ↔
      ¬ Marked t ∧ ∃ rest, Takes room (skipGap t) (.value v) rest ∧ skipGap rest = [] := by
  have enough : 2 * (skipGap t).length + 1 ≤ 2 * t.length + 1 := by
    have gap := skipGap_length_le t
    omega
  by_cases marked : Marked t
  · rw [read_of_marked marked]
    exact iff_of_false (fun same => nomatch same) (fun both => both.1 marked)
  · rw [read_of_not_marked marked]
    constructor
    · intro read
      refine ⟨marked, ?_⟩
      cases value : readValue (2 * t.length + 1) room (skipGap t) with
      | error fault => simp [value, bind, Except.bind] at read
      | ok pair =>
        obtain ⟨w, rest⟩ := pair
        simp only [value, bind, Except.bind] at read
        split at read
        · rename_i ended
          obtain rfl := Except.ok.inj read
          exact ⟨rest, (readValue_eq_ok_iff enough).1 value, ended⟩
        · cases read
    · rintro ⟨-, rest, taken, ended⟩
      rw [(readValue_eq_ok_iff enough).2 taken]
      simp only [bind, Except.bind, ended]

end Json

end SandboxShell
