import SandboxShell.Proofs.Config.Settled
import SandboxShell.Proofs.Json.Nested
import Mathlib.Data.List.Forall2

/-!
A configuration that is written to a file is loaded back as it was, whatever else stands in the file
and in whatever order. What the reader does not take back is a value inside too many others, and no
configuration is loaded where the home directory is not known.
-/

namespace SandboxShell

namespace Json

theorem exists_right {α β : Type} {relates : α → β → Prop} {first : List α} {second : List β}
    (pairwise : List.Forall₂ relates first second) {a : α} (listed : a ∈ first) :
    ∃ b ∈ second, relates a b := by
  induction pairwise with
  | nil => cases listed
  | cons here _ ih =>
    rcases List.mem_cons.1 listed with rfl | later
    · exact ⟨_, List.mem_cons_self, here⟩
    · obtain ⟨b, there, related⟩ := ih later
      exact ⟨b, List.mem_cons_of_mem _ there, related⟩

/-- A member with a plain name and a plain text comes back under its name with its text, if no other
text is under the name. -/
theorem find?_back {members ps : List (Text × Json)} {name t : Text}
    (backs : List.Forall₂ MemberComesBack members ps)
    (ascii : ∀ s ∈ name, s.isChar = true ∧ s.code < 0x10000) (plain : t.Plain)
    (given : (name, .string t) ∈ members)
    (only : ∀ member ∈ members, member.1 = name → member.2 = .string t) :
    Entries.find? name (putAll [] ps) = some (.string t) := by
  have found : Entries.find? name ps.reverse = some (.string t) := by
    apply Entries.find?_eq_some
    · obtain ⟨back, listed, named, -⟩ := exists_right backs given
      refine ⟨back, List.mem_reverse.2 listed, ?_⟩
      rw [named, respelled_plain fun s member => (ascii s member).1]
    · intro back listed named
      obtain ⟨member, there, respelt, comes⟩ := exists_right backs.flip (List.mem_reverse.1 listed)
      have same : member.1 = name := eq_of_respelled ascii (respelt.symm.trans named)
      rw [comes t (only member there same), respelled_plain plain]
  rw [find?_putAll, found]
  rfl

end Json

namespace Config

theorem ascii_name (f : Field) : ∀ s ∈ f.name, s.isChar = true ∧ s.code < 0x10000 := by
  cases f <;> decide

def members (c : Config) : List (Text × Json) := Field.all.map fun f => (f.name, .string (c.get f))

theorem load_deep {h : Host} {path : Option Path} {place : Path} {full : Nat}
    {stored : List (Text × Json)} (placed : placeOf h path = .ok place)
    (finite : Json.Within full (.object stored)) (deep : ¬ Json.Within h.nesting (.object stored))
    (file : h.fileAt place = some (.bytes (Utf8.written (Json.written (.object stored))))) :
    ∃ opened, (load h path).value = .error (.tooDeep opened) := by
  have shown := Json.shown_written finite
  obtain ⟨opened, read⟩ := Json.read_deep finite deep
  rw [← shown.unifyNewlines] at read
  rw [load_eq placed]
  exact ⟨opened, loadFrom_tooDeep shown.plain file read⟩

/-- Whatever order the members of a stored configuration come in, and whatever others are among
them, they are loaded as they were if there is room for all that is nested in them, and not at all
otherwise. -/
theorem load_stored (h : Host) (path : Option Path) (config : Config) {place : Path} {full : Nat}
    {stored others : List (Text × Json)} (placed : placeOf h path = .ok place)
    (plain : ∀ f, (config.get f).Plain) (order : stored.Perm (config.members ++ others))
    (unknown : ∀ member ∈ others, ∀ f : Field, member.1 ≠ f.name)
    (finite : Json.Within full (.object stored))
    (file : h.fileAt place = some (.bytes (Utf8.written (Json.written (.object stored)))))
    (unnamed : (h.environ.value "BOXSH_SANDBOX_TOOL").trim = []) :
    (Json.Within h.nesting (.object stored) → (load h path).value = .ok config) ∧
      (¬ Json.Within h.nesting (.object stored) →
        ∃ opened, (load h path).value = .error (.tooDeep opened)) := by
  refine ⟨fun within => ?_, fun deep => load_deep placed finite deep file⟩
  obtain ⟨ps, object, backs⟩ := Json.objectText_written within
  have shown := Json.shown_written within
  rw [← shown.unifyNewlines] at object
  have read := Json.read_eq_object_iff.2 ⟨ps, object, rfl⟩
  have members := fileMembers_object shown.plain file read
  rw [load_eq placed, loadFrom_value (congrArg Traced.value members), settled_eq_ok_iff]
  intro f
  have given : (f.name, .string (config.get f)) ∈ stored :=
    order.mem_iff.2 (List.mem_append_left _ (List.mem_map.2 ⟨f, by cases f <;> decide, rfl⟩))
  have only : ∀ member ∈ stored, member.1 = f.name → member.2 = .string (config.get f) := by
    intro member listed named
    rcases List.mem_append.1 (order.mem_iff.1 listed) with own | other
    · obtain ⟨g, -, rfl⟩ := List.mem_map.1 own
      rw [field_injective g f named]
    · exact absurd named (unknown member other f)
  apply setting_string
  rw [find?_withTool, if_neg fun both => both.2 unnamed]
  exact Json.find?_back backs (ascii_name f) (plain f) given only

theorem within_members (room : Nat) (config : Config) :
    ∀ member ∈ config.members, Json.Within room member.2 := by
  intro member listed
  obtain ⟨f, -, rfl⟩ := List.mem_map.1 listed
  exact .string _

/-- Texts with quotes, line ends and characters beyond the first plane, in the reverse order and
behind other members, one of them nested. -/
theorem load_stored_reversed :
    let config : Config :=
      { tool := "nix \"shell\" \\", userHook := "a\r\n\tb\x7f", promptMark := "(é😀)" }
    let others : List (Text × Json) :=
      [("x", .array [.integer (-7), .real .undefined]), ("TOOL", .object [("sandbox_tool", .null)])]
    let stored := others ++ config.members.reverse
    let h (nesting : Nat) : Host :=
      { environ := Table.ofList [("HOME", "/h"), ("BOXSH_SANDBOX_TOOL", " ")], nesting,
        files := Table.ofList [("/h/.boxsh/config.json",
          .bytes (Utf8.written (Json.written (.object stored))))] }
    (∀ f, (config.get f).Plain) ∧ stored.Perm (config.members ++ others) ∧
      Json.Within 2 (.object stored) ∧ (load (h 2) none).value = .ok config ∧
      ∃ opened, (load (h 1) none).value = .error (.tooDeep opened) := by
  intro config others stored h
  have plain : ∀ f, (config.get f).Plain := by
    intro f
    cases f <;> exact Text.plain_ofString _
  have order : stored.Perm (config.members ++ others) :=
    List.perm_append_comm.trans ((List.reverse_perm _).append_right _)
  have unknown : ∀ member ∈ others, ∀ f : Field, member.1 ≠ f.name := by
    intro member listed f
    revert member
    cases f <;> decide
  have within : Json.Within 2 (.object stored) := by
    have inside : ∀ member ∈ others, Json.Within 1 member.2 := by
      refine List.forall_mem_cons.2 ⟨.array ?_, List.forall_mem_singleton.2 (.object ?_)⟩
      · exact List.forall_mem_cons.2 ⟨.integer _ (by decide), List.forall_mem_singleton.2 (.real _)⟩
      · exact List.forall_mem_singleton.2 .null
    refine .object (List.forall_mem_append.2 ⟨inside, fun member listed => ?_⟩)
    exact within_members 1 config member (List.mem_reverse.1 listed)
  have deep : ¬ Json.Within 1 (.object stored) := by
    rintro (_ | _ | _ | _ | _ | _ | inside)
    exact nomatch inside _ List.mem_cons_self
  have blank : Text.trim " " = [] := by decide
  have loads (nesting : Nat) :=
    load_stored (h nesting) none config rfl plain order unknown within rfl blank
  exact ⟨plain, order, within, (loads 2).1 within, (loads 1).2 deep⟩

/-- A list inside 991 others in a member that does not count. With the object, 993 lists and objects
are open at the innermost, and there is room for 991. -/
theorem load_stored_refused :
    let config : Config := {}
    let deep : Text × Json := ("x", Json.nested 991)
    let stored := deep :: config.members
    let h : Host :=
      { environ := Table.ofList [("HOME", "/h")], nesting := 991,
        files := Table.ofList [("/c.json",
          .bytes (Utf8.written (Json.written (.object stored))))] }
    (∀ f, (config.get f).Plain) ∧ stored.Perm (config.members ++ [deep]) ∧
      (∀ f : Field, deep.1 ≠ f.name) ∧ Json.Within 993 (.object stored) ∧
      (h.environ.value "BOXSH_SANDBOX_TOOL").trim = [] ∧
      ∃ opened, (load h (some "/c.json")).value = .error (.tooDeep opened) := by
  intro config deep stored h
  have finite : Json.Within 993 (.object stored) :=
    .object (List.forall_mem_cons.2
      ⟨(Json.within_nested_iff _ _).2 (by decide), within_members 992 config⟩)
  have tooDeep : ¬ Json.Within h.nesting (.object stored) := by
    rintro (_ | _ | _ | _ | _ | _ | inside)
    exact absurd ((Json.within_nested_iff _ _).1 (inside deep List.mem_cons_self)) (by decide)
  have placed : placeOf h (some "/c.json") = .ok (Text.ofString "/c.json") := rfl
  refine ⟨fun f => ?_, (List.perm_append_singleton _ _).symm, fun f => ?_, finite, rfl,
    load_deep placed finite tooDeep rfl⟩
  · cases f <;> exact Text.plain_ofString _
  · cases f <;> decide

end Config

end SandboxShell
