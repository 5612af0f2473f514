import SandboxShell.Config.Load
import SandboxShell.Proofs.Json.Limit
import SandboxShell.Proofs.Path.Tilde
import SandboxShell.Proofs.Startup.Writing
import SandboxShell.Proofs.Utf8.RoundTrip

/-!
The loading of a configuration. It writes nothing and starts nothing. It fails only with reported
faults just when the file is readable, if it can be opened: a file that is no UTF-8 makes it end in
another way, and so does one on which the reader of JSON meets a limit, or a place that cannot be looked
at. There are no others.
-/

namespace SandboxShell

theorem Json.PastLimit.isLimit {room : Nat} {t : Text} {fault : Fault}
    (past : PastLimit room t fault) : fault.isLimit = true := by
  cases past <;> rfl

def Event.AllNoted (component : Component) (events : List Event) : Prop :=
  ∀ e ∈ events, ∃ message, e = .noted component message

namespace Event.AllNoted

variable {component : Component} {events : List Event}

theorem nil : AllNoted component [] := fun _ member => nomatch member

theorem one (message : Text) : AllNoted component [.noted component message] :=
  List.forall_mem_singleton.2 ⟨message, rfl⟩

theorem quiet (noted : AllNoted component events) : AllQuiet events := by
  intro e member
  obtain ⟨message, rfl⟩ := noted e member
  exact ⟨rfl, rfl⟩

theorem filterMap_eq_nil {α : Type} (noted : AllNoted component events) {f : Event → Option α}
    (hidden : ∀ message, f (.noted component message) = none) : events.filterMap f = [] := by
  apply List.filterMap_eq_nil_iff.2
  intro e member
  obtain ⟨message, rfl⟩ := noted e member
  exact hidden message

end Event.AllNoted

namespace Config

theorem fileMembers_noted (h : Host) (path : Path) :
    Event.AllNoted .config (fileMembers h path).events := by
  unfold fileMembers
  split
  · exact .one _
  · exact .nil
  · exact .nil
  · split
    · exact .nil
    · exact .one _

theorem loadFrom_noted (h : Host) (path : Path) :
    Event.AllNoted .config (loadFrom h path).events := by
  unfold loadFrom
  rw [Traced.events_bind]
  refine List.forall_mem_append.2 ⟨fileMembers_noted h path, ?_⟩
  split
  · exact Event.AllNoted.nil
  · split <;> exact Event.AllNoted.nil

theorem load_noted (h : Host) (path : Option Path) :
    Event.AllNoted .config (load h path).events := by
  unfold load
  split
  · exact .nil
  · exact loadFrom_noted h _
  · split
    · exact .nil
    · exact loadFrom_noted h _

theorem load_quiet (h : Host) (path : Option Path) : Event.AllQuiet (load h path).events :=
  (load_noted h path).quiet

theorem homeFile_eq (h : Host) : homeFile h =
    match h.accounts.homeRoute? h.environ [] with
    | none => .error .homeless
    | some home => .ok (home.extend [".boxsh", "config.json"]) := by
  have bare : Route.tilde? ⟨.current, ["~"]⟩ = some [] := rfl
  unfold homeFile
  rw [Route.expandHome?_of_tilde h.accounts h.environ bare]
  cases h.accounts.homeRoute? h.environ [] with
  | none => rfl
  | some home => simp [Route.extend]

theorem load_of_homeless {h : Host} {fault : Fault} (homeless : homeFile h = .error fault)
    (path : Option Path) : load h path = ⟨[], .error fault⟩ := by
  unfold load
  rw [homeless]
  rfl

theorem isReported_homeFile {h : Host} {fault : Fault} (homeless : homeFile h = .error fault) :
    fault.isReported = false := by
  unfold homeFile at homeless
  split at homeless
  · obtain rfl := Except.error.inj homeless
    rfl
  · cases homeless

/-- Bytes that are UTF-8, and a text in which the reader of JSON meets no limit. -/
def Readable (room : Nat) (content : Bytes) : Prop :=
  ∃ t : Text, t.Plain ∧ content = Utf8.written t ∧
    ∀ fault, ¬ Json.MeetsLimit room t.unifyNewlines fault

/-- It can be told whether there is a file at a path, and one that can be opened is readable. -/
structure FileReadable (h : Host) (path : Path) : Prop where
  shown : ∀ fault, h.fileAt path ≠ some (.hidden fault)
  readable : ∀ content, h.fileAt path = some (.bytes content) → Readable h.nesting content

theorem readMembers_reported_iff (room : Nat) (path : Path) (content : Bytes) :
    (∀ fault, readMembers room path content = .error fault → fault.isReported = true) ↔
      Readable room content := by
  cases decoded : Utf8.decodeStrict content with
  | error fault =>
    have failed : readMembers room path content = .error (.undecodable fault) := by
      simp only [readMembers, decoded]
    refine iff_of_false (fun reported => ?_) ?_
    · cases reported _ failed
    · rintro ⟨t, plain, same, -⟩
      cases decoded.symm.trans (Utf8.decodeStrict_eq_ok_iff.2 ⟨plain, same⟩)
  | ok t =>
    obtain ⟨plain, same⟩ := Utf8.decodeStrict_eq_ok_iff.1 decoded
    have limits {fault : Json.Fault} (limit : fault.isLimit = true)
        (ended : Json.read room t.unifyNewlines = .error fault) : ¬ Readable room content := by
      rintro ⟨u, characters, bytes, unmet⟩
      have twice := decoded.symm.trans (Utf8.decodeStrict_eq_ok_iff.2 ⟨characters, bytes⟩)
      obtain rfl := Except.ok.inj twice
      exact unmet fault ((Json.read_limit_iff limit).1 ended)
    have readable (unmet : ∀ fault, fault.isLimit = true →
        Json.read room t.unifyNewlines ≠ .error fault) : Readable room content := by
      refine ⟨t, plain, same, fun fault met => ?_⟩
      obtain ⟨-, left, u, -, past⟩ := id met
      exact unmet fault past.isLimit ((Json.read_limit_iff past.isLimit).2 met)
    unfold readMembers
    simp only [decoded]
    cases ended : Json.read room t.unifyNewlines with
    | ok v =>
      refine iff_of_true ?_ (readable fun fault _ same => nomatch ended.symm.trans same)
      intro fault failed
      cases v with
      | object => cases failed
      | null | bool | integer | real | string | array =>
        obtain rfl := Except.error.inj failed
        rfl
    | error fault =>
      cases fault with
      | malformed complaint unread =>
        refine iff_of_true ?_ (readable fun fault limit same => ?_)
        · intro fault failed
          obtain rfl := Except.error.inj failed
          rfl
        · obtain rfl := Except.error.inj (ended.symm.trans same)
          cases limit
      | tooManyDigits count =>
        refine iff_of_false (fun reported => ?_) (limits rfl ended)
        cases reported _ rfl
      | tooDeep opened =>
        refine iff_of_false (fun reported => ?_) (limits rfl ended)
        cases reported _ rfl

theorem fileMembers_reported_iff (h : Host) (path : Path) :
    (∀ fault, (fileMembers h path).value = .error fault → fault.isReported = true) ↔
      FileReadable h path := by
  cases found : h.fileAt path with
  | none =>
    have readable : FileReadable h path := ⟨by simp [found], by simp [found]⟩
    unfold fileMembers
    rw [found]
    exact iff_of_true (fun fault failed => nomatch failed) readable
  | some file =>
    cases file with
    | hidden refusal =>
      have failed : (fileMembers h path).value = .error (.hidden path refusal) := by
        unfold fileMembers
        rw [found]
        rfl
      exact iff_of_false (fun reported => nomatch reported _ failed)
        (fun readable => readable.shown refusal found)
    | refused refusal =>
      have readable : FileReadable h path := ⟨by simp [found], by simp [found]⟩
      refine iff_of_true (fun fault failed => ?_) readable
      unfold fileMembers at failed
      rw [found] at failed
      obtain rfl := Except.error.inj failed
      rfl
    | bytes content =>
      have readable : FileReadable h path ↔ Readable h.nesting content := by
        constructor
        · exact fun readable => readable.readable content found
        · refine fun readable => ⟨by simp [found], fun other same => ?_⟩
          obtain rfl := FileContent.bytes.inj (Option.some.inj (found.symm.trans same))
          exact readable
      rw [readable, ← readMembers_reported_iff h.nesting path content]
      unfold fileMembers
      rw [found]
      dsimp only
      cases readMembers h.nesting path content with
      | ok members =>
        exact iff_of_true (fun _ failed => nomatch failed) (fun _ failed => nomatch failed)
      | error fault => simp only [Traced.value_pure, Except.error.injEq]

theorem loadFrom_reported_iff (h : Host) (path : Path) :
    (∀ fault, (loadFrom h path).value = .error fault → fault.isReported = true) ↔
      FileReadable h path := by
  rw [← fileMembers_reported_iff]
  unfold loadFrom
  rw [Traced.value_bind]
  cases (fileMembers h path).value with
  | error fault => simp only [Traced.value_pure, Except.error.injEq]
  | ok members =>
    refine iff_of_true (fun fault failed => ?_) (fun fault failed => nomatch failed)
    dsimp only at failed
    split at failed
    · cases failed
    · obtain rfl := Except.error.inj failed
      rfl

theorem loadFrom_congr {h : Host} {other : Environ}
    (tool : other.value "BOXSH_SANDBOX_TOOL" = h.environ.value "BOXSH_SANDBOX_TOOL") (path : Path) :
    loadFrom { h with environ := other } path = loadFrom h path := by
  have same : withTool other = withTool h.environ := by
    funext members
    unfold withTool
    rw [tool]
  unfold loadFrom
  dsimp only
  rw [same]
  rfl

theorem load_some {h : Host} {home : Route} (housed : homeFile h = .ok home) (path : Path) :
    load h (some path) = loadFrom h (Path.route path).text := by
  unfold load
  rw [housed]

theorem load_none {h : Host} {home place : Route} (housed : homeFile h = .ok home)
    (placed : location h = .ok place) : load h none = loadFrom h place.text := by
  unfold load
  rw [housed, placed]

end Config

end SandboxShell
