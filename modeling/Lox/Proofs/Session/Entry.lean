import Mathlib.Data.List.Induction
import Lox.Proofs.Text.Utf8
import Lox.Session.Entry

/-!
Files in a tree: what is read after a file was made, and that files do not get in each other's way.

The laws are about paths that go down by names only. A session finds what was put at such a path, and
what it finds at other entries of the root is not changed. So files can be given any texts.
-/

set_option autoImplicit false
set_option relaxedAutoImplicit false

namespace Lox

namespace Entry

/-- A name that leads to an entry below, and neither nowhere nor upward. -/
def IsOwn (name : Text) : Prop := name ≠ [] ∧ name ≠ ['.'] ∧ name ≠ ['.', '.']

def Plain (path : Text) : Prop := ∀ name ∈ names path, IsOwn name

/-- The entry below another one to which names lead. -/
def walk : Entry → List Text → Except ReadError Entry
  | entry, [] => .ok entry
  | file _, _ :: _ => .error .notDirectory
  | folder entries, name :: rest =>
      match entries.lookup name with
      | some entry => walk entry rest
      | none => .error .notFound

def bytes : Entry → Except ReadError (List UInt8)
  | file content => .ok content
  | folder _ => .error .isDirectory

variable {root entry : Entry} {entries : List (Text × Entry)} {path name : Text} {rest : List Text}
variable {content : List UInt8}

private theorem names_ne_nil (path : Text) : names path ≠ [] := by
  cases path with
  | nil => exact List.cons_ne_nil _ _
  | cons c path =>
      rw [names]
      split
      · exact List.cons_ne_nil _ _
      · split <;> exact List.cons_ne_nil _ _

section walk

/-- Going down, only the entry that was come to matters, and not the way to it. -/
private theorem foldlM_step (own : ∀ name ∈ rest, IsOwn name) (entry : Entry)
    (above : List Entry) :
    (∃ error, walk entry rest = .error error ∧
        rest.foldlM step (entry :: above) = .error error) ∨
      ∃ target trail, walk entry rest = .ok target ∧
        rest.foldlM step (entry :: above) = .ok (target :: trail) := by
  induction rest generalizing entry above with
  | nil => exact .inr ⟨entry, above, rfl, rfl⟩
  | cons name rest ih =>
      obtain ⟨first, others⟩ := List.forall_mem_cons.mp own
      rw [List.foldlM_cons]
      cases entry with
      | file content => exact .inl ⟨.notDirectory, rfl, rfl⟩
      | folder entries =>
          rw [step, if_neg (not_or.mpr ⟨first.1, first.2.1⟩), if_neg first.2.2, walk]
          cases entries.lookup name with
          | none => exact .inl ⟨.notFound, rfl, rfl⟩
          | some entry => exact ih others entry (folder entries :: above)

private theorem read_of_plain (plain : Plain path) :
    root.read path = walk root (names path) >>= bytes := by
  have nonempty : path ≠ [] := by
    rintro rfl
    exact (plain [] (by simp [names])).1 rfl
  have inside : path.head? ≠ some '/' := by
    intro slash
    obtain ⟨rest, rfl⟩ := List.head?_eq_some_iff.mp slash
    exact (plain [] (by simp [names])).1 rfl
  rw [read, if_neg nonempty, if_neg inside]
  dsimp only
  rcases foldlM_step plain root [] with ⟨error, walked, ran⟩ | ⟨target, trail, walked, ran⟩
  · rw [walked, ran]
    rfl
  · rw [walked, ran]
    cases target <;> rfl

end walk

section change

private theorem lookup_assign_self (name : Text) (entry : Entry) (entries : List (Text × Entry)) :
    (assign name entry entries).lookup name = some entry := by
  induction entries with
  | nil => simp [assign]
  | cons first entries ih =>
      obtain ⟨other, old⟩ := first
      rw [assign]
      split
      · simp
      · rename_i different
        rw [List.lookup_cons, beq_eq_false_iff_ne.mpr (Ne.symm different)]
        exact ih

private theorem lookup_assign_of_ne {other : Text} (different : other ≠ name) (entry : Entry)
    (entries : List (Text × Entry)) :
    (assign name entry entries).lookup other = entries.lookup other := by
  induction entries with
  | nil => simp [assign, different]
  | cons first entries ih =>
      obtain ⟨another, old⟩ := first
      rw [assign]
      split
      · rename_i same
        subst same
        simp [List.lookup_cons, beq_eq_false_iff_ne.mpr different]
      · rw [List.lookup_cons, List.lookup_cons, ih]

private theorem walk_change (names : List Text) (old : Option Entry) :
    walk (change (fun _ => entry) names old) names = .ok entry := by
  induction names generalizing old with
  | nil => rfl
  | cons name rest ih =>
      match old with
      | some (folder entries) =>
          rw [change, walk, lookup_assign_self]
          exact ih _
      | some (file content) =>
          rw [change, walk, List.lookup_cons_self]
          · exact ih none
          · nofun
      | none =>
          rw [change, walk, List.lookup_cons_self]
          · exact ih none
          · nofun

private theorem follow_of_own (own : IsOwn name) (place : List Text) :
    follow (some place) name = some (name :: place) := by
  simp [follow, own.1, own.2.1, own.2.2]

private theorem makeWay_concat (root : Entry) (front : List Text) (name : Text) :
    makeWay root (front ++ [name]) =
      (follow (makeWay root front).1 name,
        changeAt asFolder (makeWay root front).2 (follow (makeWay root front).1 name)) := by
  rw [makeWay, List.foldl_append]
  rfl

private theorem place_makeWay (root : Entry) {names : List Text}
    (own : ∀ name ∈ names, IsOwn name) : (makeWay root names).1 = some names.reverse := by
  induction names using List.reverseRecOn with
  | nil => rfl
  | append_singleton front name ih =>
      have above := ih fun name member => own name (List.mem_append_left _ member)
      rw [makeWay_concat, above, follow_of_own (own name (by simp)), List.reverse_concat]

private theorem addFile_of_plain (plain : Plain path) (content : List UInt8) (root : Entry) :
    ∃ way, addFile path content root =
      change (fun _ => file content) (names path) (some (makeWay root way).2) ∧
        way <+: names path := by
  obtain ⟨front, last, split⟩ : ∃ front last, names path = front ++ [last] :=
    ⟨_, _, (List.dropLast_concat_getLast (names_ne_nil path)).symm⟩
  have own : ∀ name ∈ front, IsOwn name :=
    fun name member => plain name (split ▸ List.mem_append_left _ member)
  refine ⟨front, ?_, split ▸ List.prefix_append _ _⟩
  rw [addFile, split, List.dropLast_concat, List.getLastD_concat]
  dsimp only
  rw [place_makeWay root own, follow_of_own (plain last (by simp [split])), changeAt,
    List.reverse_cons, List.reverse_reverse]

private theorem makeWay_folder (entries : List (Text × Entry)) {names : List Text}
    (own : ∀ name ∈ names, IsOwn name) (along : names <+: name :: rest) :
    ∃ others, (makeWay (folder entries) names).2 = folder others ∧
      ∀ other, other ≠ name → others.lookup other = entries.lookup other := by
  induction names using List.reverseRecOn with
  | nil => exact ⟨entries, rfl, fun _ _ => rfl⟩
  | append_singleton front last ih =>
      have above : ∀ name ∈ front, IsOwn name :=
        fun name member => own name (List.mem_append_left _ member)
      obtain ⟨others, came, same⟩ := ih above ((List.prefix_append _ _).trans along)
      obtain ⟨below, split, -⟩ : ∃ below, front ++ [last] = name :: below ∧ below <+: rest :=
        (List.prefix_cons_iff.mp along).resolve_left (List.append_ne_nil_of_right_ne_nil _ nofun)
      refine ⟨assign name (change asFolder below (others.lookup name)) others, ?_, ?_⟩
      · rw [makeWay_concat, place_makeWay _ above, follow_of_own (own last (by simp)), came,
          changeAt, List.reverse_cons, List.reverse_reverse, split]
        rfl
      · intro other different
        rw [lookup_assign_of_ne different, same other different]

private theorem addFile_folder (plain : Plain path) (content : List UInt8)
    (entries : List (Text × Entry)) (split : names path = name :: rest) :
    ∃ others, addFile path content (folder entries) = folder others ∧
      ∀ other, other ≠ name → others.lookup other = entries.lookup other := by
  obtain ⟨way, made, along⟩ := addFile_of_plain plain content (folder entries)
  have own : ∀ name ∈ way, IsOwn name := fun name member => plain name (along.subset member)
  rw [split] at along made
  obtain ⟨others, came, same⟩ := makeWay_folder entries own along
  rw [came] at made
  refine ⟨_, made, fun other different => ?_⟩
  rw [lookup_assign_of_ne different, same other different]

end change

theorem readText_addFile (plain : Plain path) (text : Text) (root : Entry) :
    (addFile path (Text.utf8 text) root).readText path = .ok text := by
  obtain ⟨way, made, -⟩ := addFile_of_plain plain (Text.utf8 text) root
  rw [readText, read_of_plain plain, made, walk_change]
  change ReadError.textOf (Text.utf8 text) = _
  rw [ReadError.textOf, Text.ofUtf8?_utf8]

theorem readText_addFile_of_ne {other : Text} (plain : Plain path) (plain' : Plain other)
    (different : (names other).head? ≠ (names path).head?) (content : List UInt8)
    (entries : List (Text × Entry)) :
    (addFile path content (folder entries)).readText other = (folder entries).readText other := by
  obtain ⟨name, rest, split⟩ := List.exists_cons_of_ne_nil (names_ne_nil path)
  obtain ⟨name', rest', split'⟩ := List.exists_cons_of_ne_nil (names_ne_nil other)
  obtain ⟨others, made, same⟩ := addFile_folder plain content entries split
  have apart : name' ≠ name := by
    rintro rfl
    rw [split, split'] at different
    exact different rfl
  rw [readText, readText, made, read_of_plain plain', read_of_plain plain', split', walk, walk,
    same name' apart]

/-- Files at different entries of a root can be given any texts. -/
theorem exists_tree (files : List (Text × Text)) (plain : ∀ file ∈ files, Plain file.1)
    (apart : files.Pairwise fun file other => (names file.1).head? ≠ (names other.1).head?) :
    ∃ entries, ∀ file ∈ files, (folder entries).readText file.1 = .ok file.2 := by
  induction files with
  | nil => exact ⟨[], nofun⟩
  | cons file files ih =>
      obtain ⟨first, others⟩ := List.pairwise_cons.mp apart
      obtain ⟨own, below⟩ := List.forall_mem_cons.mp plain
      obtain ⟨entries, found⟩ := ih below others
      obtain ⟨name, rest, split⟩ := List.exists_cons_of_ne_nil (names_ne_nil file.1)
      obtain ⟨entries', made, -⟩ := addFile_folder own (Text.utf8 file.2) entries split
      refine ⟨entries', List.forall_mem_cons.mpr ⟨?_, fun other member => ?_⟩⟩
      · rw [← made]
        exact readText_addFile own file.2 (folder entries)
      · rw [← made, readText_addFile_of_ne own (below other member) (first other member).symm]
        exact found other member

end Entry

namespace Session

theorem runFiles_congr {read another : Text → Except ReadError Text} {files : List Text}
    (same : ∀ path ∈ files, read path = another path) (style : Style) :
    runFiles read style files = runFiles another style files := by
  induction files with
  | nil => rfl
  | cons path files ih =>
      obtain ⟨first, others⟩ := List.forall_mem_cons.mp same
      rw [runFiles, runFiles, ih others, runFile, runFile, first]

theorem runFiles_addFile {path : Text} {files : List Text} (plain : Entry.Plain path)
    (others : ∀ other ∈ files,
      Entry.Plain other ∧ (Entry.names other).head? ≠ (Entry.names path).head?)
    (content : List UInt8) (entries : List (Text × Entry)) (style : Style) :
    runFiles (Entry.addFile path content (.folder entries)).readText style files =
      runFiles (Entry.folder entries).readText style files :=
  runFiles_congr (fun other member =>
    Entry.readText_addFile_of_ne plain (others other member).1 (others other member).2 content
      entries) style

end Session

end Lox
