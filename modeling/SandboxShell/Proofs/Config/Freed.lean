import SandboxShell.Proofs.Config.Settled
import SandboxShell.Proofs.Environ.Handed

/-!
What a configuration file that a variable names owes to the home directory: nothing, just when two
things hold. The home directory can be told, since it is looked up before the variable is. And no tilde
step leads the route to the file, or it stands for the same directory whatever the home is.
-/

namespace SandboxShell

namespace Config

def fileOverride (environ : Environ) : Text := (environ.value "BOXSH_CONFIG").trim

def location? (h : Host) : Option Route :=
  (h.accounts.homeRoute? h.environ []).bind fun home =>
    if fileOverride h.environ = [] then some (home.extend [".boxsh", "config.json"])
    else (Path.route (fileOverride h.environ)).expandHome? h.accounts h.environ

/-- What is the same on two hosts, and does not fail, if the home directory does not matter. -/
structure FreeOfHome (h g : Host) : Prop where
  located : location g = location h
  loaded : ∀ path, load g path = load h path
  placed : location h ≠ .error .homeless
  settled : ∀ path, (load h path).value ≠ .error .homeless

variable {h : Host} {other : Environ}

theorem location_eq (h : Host) : location h =
    match location? h with
    | none => .error .homeless
    | some place => .ok place := by
  unfold location location?
  rw [homeFile_eq]
  cases h.accounts.homeRoute? h.environ [] with
  | none => rfl
  | some home =>
    change (if fileOverride h.environ = [] then _ else _) = _
    rw [Option.bind_some]
    split <;> rfl

theorem location_eq_ok_iff {place : Route} : location h = .ok place ↔ location? h = some place := by
  rw [location_eq]
  cases location? h with
  | none => exact iff_of_false (fun placed => nomatch placed) (fun found => nomatch found)
  | some route => rw [Except.ok.injEq, Option.some.injEq]

theorem location_eq_homeless_iff : location h = .error .homeless ↔ location? h = none := by
  rw [location_eq]
  cases location? h with
  | none => exact iff_of_true rfl rfl
  | some route => exact iff_of_false (fun placed => nomatch placed) (fun found => nomatch found)

theorem readMembers_ne_homeless (room : Nat) (path : Path) (content : Bytes) :
    readMembers room path content ≠ .error .homeless := by
  intro failed
  unfold readMembers at failed
  split at failed
  · cases failed
  · dsimp only at failed
    split at failed <;> cases failed

theorem fileMembers_ne_homeless (h : Host) (path : Path) :
    (fileMembers h path).value ≠ .error .homeless := by
  unfold fileMembers
  split
  · exact fun failed => nomatch failed
  · exact fun failed => nomatch failed
  · exact fun failed => nomatch failed
  · rename_i content _
    have told := readMembers_ne_homeless h.nesting path content
    split
    · rename_i fault failed
      rw [failed] at told
      exact told
    · exact fun failed => nomatch failed

theorem loadFrom_ne_homeless (h : Host) (path : Path) :
    (loadFrom h path).value ≠ .error .homeless := by
  have told := fileMembers_ne_homeless h path
  unfold loadFrom
  rw [Traced.value_bind]
  split
  · rename_i fault failed
    rw [failed] at told
    exact fun same => told (congrArg _ (Except.error.inj same))
  · split <;> exact fun failed => nomatch failed

theorem load_of_placed {place : Route} (placed : location? h = some place) (path : Option Path) :
    load h path = loadFrom h ((path.map Path.route).getD place).text := by
  obtain ⟨home, housed⟩ : ∃ home, homeFile h = .ok home := by
    obtain ⟨home, told, -⟩ := Option.bind_eq_some_iff.1 placed
    rw [homeFile_eq, told]
    exact ⟨_, rfl⟩
  cases path with
  | none => exact load_none housed (location_eq_ok_iff.2 placed)
  | some path => exact load_some housed path

theorem freeOfHome_iff
    (tool : other.value "BOXSH_SANDBOX_TOOL" = h.environ.value "BOXSH_SANDBOX_TOOL") :
    FreeOfHome h { h with environ := other } ↔
      location? { h with environ := other } = location? h ∧ location? h ≠ none := by
  constructor
  · intro free
    have told : location? h ≠ none := mt location_eq_homeless_iff.2 free.placed
    obtain ⟨place, placed⟩ := Option.ne_none_iff_exists'.1 told
    have same := free.located.trans (location_eq_ok_iff.2 placed)
    exact ⟨(location_eq_ok_iff.1 same).trans placed.symm, told⟩
  · rintro ⟨same, told⟩
    obtain ⟨place, placed⟩ := Option.ne_none_iff_exists'.1 told
    refine ⟨?_, fun path => ?_, mt location_eq_homeless_iff.1 told, fun path => ?_⟩
    · rw [location_eq, location_eq, same]
    · rw [load_of_placed placed, load_of_placed (same.trans placed), loadFrom_congr tool]
    · rw [load_of_placed placed]
      exact loadFrom_ne_homeless h _

/-- A configuration file that a variable names, and that does not begin with a tilde, is found and loaded
alike whatever the home directory is, without fail for want of one, just when the home directory can be
told either way and a tilde step that leads the route stands for one directory either way. Such a step
stands behind a dot and a slash. -/
theorem override_freeOfHome_iff (h : Host) (other : Environ)
    (alike : ∀ name, name ≠ Text.ofString "HOME" → other.find? name = h.environ.find? name)
    (named : fileOverride h.environ ≠ [])
    (untilded : (fileOverride h.environ).head? ≠ some (.char '~')) :
    let route := Path.route (fileOverride h.environ)
    (FreeOfHome h { h with environ := other } ↔
      h.accounts.homeRoute? h.environ [] ≠ none ∧ h.accounts.homeRoute? other [] ≠ none ∧
        ∀ name, route.tilde? = some name →
          ∃ home, h.accounts.homeRoute? h.environ name = some home ∧
            h.accounts.homeRoute? other name = some home) ∧
    (route.tilde? ≠ none → Text.startsWith (fileOverride h.environ) "./" = true) := by
  intro route
  have value {name : Text} (apart : name ≠ Text.ofString "HOME") :
      other.value name = h.environ.value name := Environ.value_eq_of_find? (alike name apart)
  have file : fileOverride other = fileOverride h.environ := congrArg Text.trim (value (by decide))
  have found (e : Environ) (same : fileOverride e = fileOverride h.environ) :
      location? { h with environ := e } =
        (h.accounts.homeRoute? e []).bind fun _ => route.expandHome? h.accounts e := by
    unfold location?
    dsimp only
    rw [same]
    simp only [if_neg named]
    rfl
  refine ⟨?_, Path.dotted_of_tilde untilded⟩
  rw [freeOfHome_iff (value (by decide)), found other file, found h.environ rfl]
  rw [← Route.expandHome?_agree_iff]
  constructor
  · rintro ⟨same, told⟩
    obtain ⟨place, placed⟩ := Option.ne_none_iff_exists'.1 told
    obtain ⟨home, housed, one⟩ := Option.bind_eq_some_iff.1 placed
    obtain ⟨home', housed', two⟩ := Option.bind_eq_some_iff.1 (same.trans placed)
    exact ⟨Option.ne_none_iff_exists'.2 ⟨home, housed⟩,
      Option.ne_none_iff_exists'.2 ⟨home', housed'⟩, place, one, two⟩
  · rintro ⟨housed, housed', place, one, two⟩
    obtain ⟨home, housed⟩ := Option.ne_none_iff_exists'.1 housed
    obtain ⟨home', housed'⟩ := Option.ne_none_iff_exists'.1 housed'
    rw [housed, housed', Option.bind_some, Option.bind_some, one, two]
    exact ⟨rfl, Option.some_ne_none place⟩

/-- A tilde with a name behind a dot and a slash stands for the home of another account, and the user's
own home may move. -/
theorem override_freeOfHome_other :
    let other : Environ := Table.ofList [("BOXSH_CONFIG", " ./~bob//c.json ")]
    let login : Environ := other.put "HOME" "/h"
    let h : Host :=
      { environ := login, accounts := ⟨some "/home/u", Table.ofList [("bob", "/srv/bob/")]⟩,
        files := Table.ofList [("/srv/bob/c.json", .bytes (Utf8.written "\x7b\x7d"))],
        nesting := 991 }
    (∀ name, name ≠ Text.ofString "HOME" → other.find? name = login.find? name) ∧
      fileOverride login ≠ [] ∧ (fileOverride login).head? ≠ some (.char '~') ∧
      FreeOfHome h { h with environ := other } ∧
      location h = .ok ⟨.top, ["srv", "bob", "c.json"]⟩ := by
  intro other login h
  have alike : ∀ name, name ≠ Text.ofString "HOME" → other.find? name = login.find? name := by
    intro name apart
    rw [Table.find?_put, if_neg apart]
  have named : fileOverride login ≠ [] := by decide
  have untilded : (fileOverride login).head? ≠ some (.char '~') := by decide
  refine ⟨alike, named, untilded, ?_, rfl⟩
  refine (override_freeOfHome_iff h other alike named untilded).1.2 ⟨by decide, by decide, ?_⟩
  intro name leads
  obtain rfl : Text.ofString "bob" = name := Option.some.inj leads
  exact ⟨⟨.top, ["srv", "bob"]⟩, rfl, rfl⟩

/-- A home directory that begins with a tilde cannot be told, and so nothing is loaded, although the
file has an absolute path. -/
theorem location_homeless :
    let login : Environ := Table.ofList [("HOME", "/h"), ("BOXSH_CONFIG", "/c.json")]
    let other : Environ := login.put "HOME" "~x"
    let h : Host :=
      { environ := login, nesting := 991,
        files := Table.ofList [("/c.json", .bytes (Utf8.written "\x7b\x7d"))] }
    (∀ name, name ≠ Text.ofString "HOME" → other.find? name = login.find? name) ∧
      fileOverride login = "/c.json" ∧ (load h none).value = .ok {} ∧
      load { h with environ := other } none = ⟨[], .error .homeless⟩ ∧
      ¬ FreeOfHome h { h with environ := other } := by
  intro login other h
  have homeless : location { h with environ := other } = .error .homeless := rfl
  have placed : location h = .ok ⟨.top, ["c.json"]⟩ := rfl
  refine ⟨fun name apart => ?_, by decide, ?_, rfl, fun free => ?_⟩
  · rw [Table.find?_put, if_neg apart]
  · have read : Json.read h.nesting (Text.unifyNewlines "\x7b\x7d") = .ok (.object []) := rfl
    rw [load_of_placed (location_eq_ok_iff.1 placed),
      loadFrom_value (congrArg Traced.value (fileMembers_object (Text.plain_ofString _) rfl read))]
    rfl
  · exact nomatch (homeless.symm.trans free.located).trans placed

end Config

end SandboxShell
