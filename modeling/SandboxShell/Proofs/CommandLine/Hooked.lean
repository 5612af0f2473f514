import SandboxShell.CommandLine.Request

/-!
When a request has a text for its hook. A setting loses its value only to the divider, attached to
an argument that begins with two dashes; without such an argument each step of the reading keeps the
text of the hook, and so does the whole reading.
-/

namespace SandboxShell

namespace CommandLine

/-- The divider is attached to an argument that begins with it. -/
def DividerAttached (argument : Text) : Prop :=
  Text.startsWith argument divider = true ∧ attachedValue? argument = some divider

instance (argument : Text) : Decidable (DividerAttached argument) :=
  inferInstanceAs (Decidable (_ ∧ _))

def Undivided (m : Mark) : Prop :=
  ∀ s spelling, m ≠ .switch (.setting s) spelling (some divider)

theorem flag_of_short {entry : Text × Switch} (member : entry ∈ Switch.spellings)
    (short : entry.1.length ≤ 2) : ∃ f, entry.2 = .flag f := by
  unfold Switch.spellings at member
  simp only [List.mem_cons, List.not_mem_nil, or_false] at member
  rcases member with rfl | rfl | rfl | rfl | rfl | rfl | rfl | rfl
  all_goals first
    | exact ⟨_, rfl⟩
    | exact absurd short (by decide)

theorem spelled {t : Text} {s : Switch} (found : Switch.ofSpelling? t = some s) :
    (t, s) ∈ Switch.spellings := by
  obtain ⟨entry, first, rfl⟩ := Option.map_eq_some_iff.1 found
  have same : entry.1 = t := by simpa using List.find?_some first
  subst same
  exact List.mem_of_find?_eq_some first

theorem dashes_of_setting {spelling : Text} {s : Setting}
    (member : (spelling, Switch.setting s) ∈ Switch.spellings) :
    Text.startsWith spelling divider = true := by
  unfold Switch.spellings at member
  simp only [List.mem_cons, Prod.mk.injEq, reduceCtorEq, and_false, List.not_mem_nil, or_false,
    false_or] at member
  rcases member with ⟨rfl, -⟩ | ⟨rfl, -⟩ <;> decide

theorem undivided_of_candidates {argument spelling : Text} {s : Switch} {attached : Option Text}
    (member : (spelling, s, attached) ∈ candidates argument) (plain : ¬ DividerAttached argument) :
    Undivided (.switch s spelling attached) := by
  rintro setting _ same
  obtain ⟨rfl, rfl, rfl⟩ := Mark.switch.inj same
  unfold candidates at member
  split at member
  · rename_i dashes
    obtain ⟨entry, -, same⟩ := List.mem_map.1 member
    exact plain ⟨dashes, (Prod.mk.inj (Prod.mk.inj same).2).2⟩
  · obtain ⟨entry, listed, same⟩ := List.mem_map.1 member
    obtain ⟨inside, spelling⟩ := List.mem_filter.1 listed
    have short : entry.1.length ≤ 2 := by
      rw [of_decide_eq_true spelling]
      exact List.length_take_le 2 argument
    obtain ⟨f, flag⟩ := flag_of_short inside short
    simp [flag] at same

theorem undivided_of_markOf {argument : Text} {m : Mark} (marked : markOf argument = .ok m)
    (plain : ¬ DividerAttached argument) : Undivided m := by
  unfold markOf at marked
  split at marked
  · rename_i letter rest
    split at marked
    · obtain rfl := Except.ok.inj marked
      intro s spelling same
      cases (Mark.switch.inj same).2.2
    · -- the spelling has two dashes in front, and the argument begins with the spelling
      rename_i s _ found
      obtain rfl := Except.ok.inj marked
      rintro setting _ same
      obtain ⟨rfl, -, attached⟩ := Mark.switch.inj same
      have front := dashes_of_setting (spelled found)
      have dashes : Text.startsWith (.char '-' :: letter :: rest) divider = true :=
        List.isPrefixOf_iff_prefix.2
          ((List.isPrefixOf_iff_prefix.1 front).trans (List.takeWhile_prefix _))
      exact plain ⟨dashes, attached⟩
    · unfold markOfOther at marked
      split at marked
      · rename_i spelling s attached only
        obtain rfl := Except.ok.inj marked
        exact undivided_of_candidates (only ▸ List.mem_singleton_self _) plain
      · split at marked <;> obtain rfl := Except.ok.inj marked <;> exact fun _ _ => Mark.noConfusion
      · cases marked
  · obtain rfl := Except.ok.inj marked
    exact fun _ _ => Mark.noConfusion

theorem undivided_of_marked {arguments : List Text} {parts : List (Text × Mark)}
    (marks : marked arguments = .ok parts) (plain : ∀ a ∈ arguments, ¬ DividerAttached a) :
    ∀ part ∈ parts, Undivided part.2 := by
  induction arguments generalizing parts with
  | nil =>
    obtain rfl := Except.ok.inj marks
    intro part none
    cases none
  | cons argument rest ih =>
    unfold marked at marks
    split at marks
    · obtain rfl := Except.ok.inj marks
      intro part member s spelling
      rcases List.mem_cons.1 member with rfl | word
      · exact Mark.noConfusion
      · obtain ⟨text, -, rfl⟩ := List.mem_map.1 word
        exact Mark.noConfusion
    · cases first : markOf argument with
      | error fault => simp [first, bind, Except.bind] at marks
      | ok m =>
        cases others : marked rest with
        | error fault => simp [first, others, bind, Except.bind] at marks
        | ok more =>
          simp only [first, others, bind, Except.bind, pure, Except.pure] at marks
          obtain rfl := Except.ok.inj marks
          intro part member
          rcases List.mem_cons.1 member with rfl | later
          · exact undivided_of_markOf first (plain argument List.mem_cons_self)
          · exact ih others (fun a inside => plain a (List.mem_cons_of_mem _ inside)) part later

namespace Progress

theorem actAll_planHook {p q : Progress} {flags : List Flag} (acted : p.actAll flags = .ok q) :
    q.planHook = p.planHook := by
  induction flags generalizing p with
  | nil =>
    obtain rfl := Except.ok.inj acted
    rfl
  | cons f rest ih =>
    cases f with
    | help | version => cases acted
    | debug => exact ih (p := { p with debug := true }) acted

theorem assign_planHook (p : Progress) (s : Setting) (value : Text) (given : p.planHook ≠ none) :
    (p.assign s (some value)).planHook ≠ none := by
  cases s with
  | initHook => exact Option.some_ne_none value
  | tool => exact given

theorem switch_planHook {p q : Progress} {s : Switch} {spelling : Text} {attached : Option Text}
    (switched : p.switch spelling attached s = .ok q)
    (undivided : Undivided (.switch s spelling attached)) (given : p.planHook ≠ none) :
    q.planHook ≠ none := by
  cases s with
  | flag f =>
    unfold switch at switched
    cases named : flags f spelling attached with
    | error ending => simp [named, Except.bind] at switched
    | ok all =>
      simp only [named, Except.bind] at switched
      rw [actAll_planHook switched]
      exact given
  | setting s =>
    cases attached with
    | none =>
      obtain rfl := Except.ok.inj switched
      exact given
    | some value =>
      have whole : value ≠ divider := fun same => undivided s spelling (same ▸ rfl)
      simp only [switch, if_neg whole] at switched
      obtain rfl := Except.ok.inj switched
      exact assign_planHook _ _ _ given

theorem step_planHook {p q : Progress} {argument : Text} {m : Mark}
    (stepped : p.step (argument, m) = .ok q) (undivided : Undivided m)
    (given : p.planHook ≠ none) : q.planHook ≠ none := by
  unfold step at stepped
  cases awaited : p.awaiting with
  | some s =>
    cases m with
    | word =>
      simp only [awaited] at stepped
      obtain rfl := Except.ok.inj stepped
      exact assign_planHook _ _ _ given
    | divider | switch | unknown => simp [awaited] at stepped
  | none =>
    cases m with
    | word =>
      simp only [awaited] at stepped
      obtain rfl := Except.ok.inj stepped
      unfold word
      split <;> exact given
    | divider =>
      simp only [awaited] at stepped
      obtain rfl := Except.ok.inj stepped
      unfold divide
      split <;> exact given
    | unknown =>
      simp only [awaited] at stepped
      obtain rfl := Except.ok.inj stepped
      exact given
    | switch s spelling attached =>
      simp only [awaited] at stepped
      exact switch_planHook stepped undivided given

theorem foldlM_planHook {parts : List (Text × Mark)} {p q : Progress}
    (folded : parts.foldlM step p = .ok q) (undivided : ∀ part ∈ parts, Undivided part.2)
    (given : p.planHook ≠ none) : q.planHook ≠ none := by
  induction parts generalizing p with
  | nil =>
    obtain rfl := Except.ok.inj folded
    exact given
  | cons part parts ih =>
    rw [List.foldlM_cons] at folded
    cases stepped : p.step part with
    | error ending => simp [stepped, bind, Except.bind] at folded
    | ok next =>
      simp only [stepped, bind, Except.bind] at folded
      have kept := step_planHook stepped (undivided part List.mem_cons_self) given
      exact ih folded (fun other inside => undivided other (List.mem_cons_of_mem _ inside)) kept

theorem finish_planHook {p : Progress} {request : Request} (finished : p.finish = .ok request) :
    request.planHook = p.planHook := by
  unfold finish at finished
  split at finished
  · cases finished
  · cases finished
  · obtain rfl := Except.ok.inj finished
    rfl

end Progress

/-- A request has a text for its hook, unless the divider is attached to an argument. -/
theorem request_planHook {arguments : List Text} {asked : Request}
    (accepted : request arguments = .ok asked) (plain : ∀ a ∈ arguments, ¬ DividerAttached a) :
    asked.planHook ≠ none := by
  unfold request at accepted
  cases marks : marked arguments with
  | error fault => simp [marks] at accepted
  | ok parts =>
    simp only [marks] at accepted
    cases folded : parts.foldlM Progress.step {} with
    | error ending => simp [folded, bind, Except.bind] at accepted
    | ok p =>
      simp only [folded, bind, Except.bind] at accepted
      rw [Progress.finish_planHook accepted]
      exact Progress.foldlM_planHook folded (undivided_of_marked marks plain)
        (Option.some_ne_none _)

end CommandLine

end SandboxShell
