import SchemaForge.Input
import SchemaForge.Proofs.FileTree
import SchemaForge.Proofs.Generate.FileNames
import SchemaForge.Proofs.Schema.Alphabetized
import SchemaForge.Proofs.Schema.Language
import SchemaForge.Proofs.Text.Utf8

/-! Reading the files of a directory. What is returned are the files that have one of the extensions asked
for, each once, in the order of their names. Directory reading and the parser tell schema documents apart
from other files by tests of their own; both come to the same on every file name. -/

namespace SchemaForge

open Text (Utf8.ofString Utf8.decode_ofString Utf8.ofString_lt_iff)

/-- Behind its last dot, and with something in front of that, the name has one of some extensions in any
ASCII case. -/
def HasOneOf (extensions : List String) (name : String) : Prop :=
  ∃ stem ext, name = stem ++ "." ++ ext ∧ stem ≠ "" ∧ '.' ∉ ext.toList ∧
    ∃ x ∈ extensions, Text.asciiLower x = Text.asciiLower ext

/-- A directory at the end of a path. What stands in it has names that files can have, and its files hold
text. -/
structure TextDirectory (t : FileTree) (path : String) (l : Location) : Prop where
  leads : t.locate path = .ok l
  directory : t.at? l = some .directory
  named : ∀ name e, t.at? (l ++ [name]) = some e → FileName name
  readable : ∀ name contents, t.at? (l ++ [name]) = some (.file contents) →
    ∃ text, contents = Utf8.ofString text

/-- A file stands in a directory by the name of a source and holds its text. -/
def Stands (t : FileTree) (l : Location) (s : Source) : Prop :=
  t.at? (l ++ [s.name]) = some (.file (Utf8.ofString s.contents))

theorem FileName.extension?_eq {name : String} (file : FileName name) :
    FilePath.extension? name = FilePath.nameExtension? name := by
  rw [FilePath.extension?, FilePath.fileName?_of_flat (fun slash => (file.flat _ slash).1 rfl)
    file.named file.notHere file.notAbove, Option.bind_some]

namespace Input

variable {t : FileTree} {path name : String} {l : Location} {extensions : List String}

theorem hasOneOf_iff (file : FileName name) : HasOneOf extensions name ↔
    ∃ ext, FilePath.nameExtension? name = some ext ∧
      ∃ x ∈ extensions, Text.asciiLower x = Text.asciiLower ext := by
  simp only [FilePath.nameExtension?_eq_some, file.notAbove, ne_eq, not_false_eq_true, true_and]
  constructor
  · rintro ⟨stem, ext, whole, named, undotted, x, hx, same⟩
    exact ⟨ext, ⟨stem, named, whole, undotted⟩, x, hx, same⟩
  · rintro ⟨ext, ⟨stem, named, whole, undotted⟩, x, hx, same⟩
    exact ⟨stem, ext, whole, named, undotted, x, hx, same⟩

theorem hasExtension_iff (file : FileName name) :
    hasExtension extensions name = true ↔ HasOneOf extensions name := by
  rw [hasOneOf_iff file, hasExtension]
  cases FilePath.nameExtension? name <;> simp

theorem mem_chosen {listing : NameMap Entry} {contents : Text.Utf8.Bytes} :
    (name, contents) ∈ chosen extensions listing ↔
      listing.get? name = some (.file contents) ∧ hasExtension extensions name = true := by
  simp only [chosen, List.mem_filterMap, Prod.exists]
  constructor
  · rintro ⟨n, e, listed, h⟩
    cases e with
    | directory => cases h
    | file bytes =>
      obtain ⟨has, ⟨⟩⟩ := Option.ite_none_right_eq_some.mp h
      exact ⟨NameMap.mem_entries_iff.mp listed, has⟩
  · rintro ⟨listed, has⟩
    exact ⟨name, .file contents, NameMap.mem_entries_iff.mpr listed, by simp [has]⟩

theorem chosen_increasing (extensions : List String) (listing : NameMap Entry) :
    (chosen extensions listing).Pairwise fun a b => a.1 < b.1 := by
  rw [chosen, List.pairwise_filterMap]
  refine (List.pairwise_map.mp listing.increasing).imp ?_
  rintro ⟨name, e⟩ ⟨name', e'⟩ less f hf g hg
  cases e with
  | directory => cases hf
  | file contents =>
    cases e' with
    | directory => cases hg
    | file contents' =>
      obtain ⟨-, ⟨⟩⟩ := Option.ite_none_right_eq_some.mp hf
      obtain ⟨-, ⟨⟩⟩ := Option.ite_none_right_eq_some.mp hg
      exact less

theorem source_eq_ok {contents : Text.Utf8.Bytes} {s : Source} : source path name contents = .ok s ↔
    name = s.name ∧ contents = Utf8.ofString s.contents := by
  unfold source
  cases h : Text.Utf8.decode contents with
  | error e =>
    refine ⟨nofun, ?_⟩
    rintro ⟨-, rfl⟩
    rw [Utf8.decode_ofString] at h
    cases h
  | ok text =>
    obtain rfl := Text.Utf8.ofString_of_decode h
    obtain ⟨n, contents⟩ := s
    simp only [Except.ok.injEq, Source.mk.injEq]
    exact and_congr_right fun _ => ⟨congrArg _, fun same => Text.Utf8.ofString_injective same⟩

def packed (s : Source) : String × Text.Utf8.Bytes := (s.name, Utf8.ofString s.contents)

theorem packed_injective : Function.Injective packed := by
  intro s s' same
  obtain ⟨names, bytes⟩ := Prod.mk.inj same
  exact congrArg₂ Source.mk names (Text.Utf8.ofString_injective bytes)

/-- What reading a directory comes to: the sources in the order of their names, each once, that stand in the
directory and have one of the extensions. -/
structure Listed (t : FileTree) (l : Location) (extensions : List String) (sources : List Source) :
    Prop where
  ascending : Ascending (sources.map (·.name))
  complete : ∀ s, s ∈ sources ↔ Stands t l s ∧ HasOneOf extensions s.name

theorem Listed.unique {sources sources' : List Source} (h : Listed t l extensions sources)
    (h' : Listed t l extensions sources') : sources = sources' := by
  have nodup {sources : List Source} (ascending : Ascending (sources.map (·.name))) :
      sources.Nodup := by
    refine (ascending_map.mp ascending).imp fun {a b} less => ?_
    rintro rfl
    exact List.lt_irrefl _ less
  have perm : sources.Perm sources' :=
    (List.perm_ext_iff_of_nodup (nodup h.ascending) (nodup h'.ascending)).mpr fun s =>
      (h.complete s).trans (h'.complete s).symm
  exact eq_of_ascending perm h.ascending h'.ascending

theorem exists_listed (h : TextDirectory t path l) (extensions : List String) :
    ∃ sources, Listed t l extensions sources ∧ readSources t path extensions =
      if sources.isEmpty then .error (.empty path) else .ok sources := by
  have here : t.entry? path = some .directory := (FileTree.entry?_eq h.leads).trans h.directory
  have standing {name : String} {contents : Text.Utf8.Bytes} :
      (name, contents) ∈ chosen extensions (t.listing path) ↔
        t.at? (l ++ [name]) = some (.file contents) ∧ HasOneOf extensions name := by
    rw [mem_chosen, FileTree.listing_eq h.leads, FileTree.get?_children]
    exact and_congr_right fun found => hasExtension_iff (h.named name _ found)
  have readable : ∀ f ∈ chosen extensions (t.listing path),
      ∃ s, source (FilePath.join path f.1) f.1 f.2 = .ok s := by
    intro f hf
    obtain ⟨text, bytes⟩ := h.readable f.1 f.2 (standing.mp hf).1
    exact ⟨⟨f.1, text⟩, source_eq_ok.mpr ⟨rfl, bytes⟩⟩
  obtain ⟨sources, read⟩ := Outcome.exists_mapM_eq_ok.mpr readable
  have files : chosen extensions (t.listing path) = sources.map packed := by
    rw [← List.forall₂_eq_eq_eq, List.forall₂_map_right_iff]
    exact (Outcome.mapM_eq_ok.mp read).imp fun f s hs =>
      Prod.ext (source_eq_ok.mp hs).1 (source_eq_ok.mp hs).2
  refine ⟨sources, ⟨?_, fun s => ?_⟩, ?_⟩
  · have increasing := chosen_increasing extensions (t.listing path)
    rw [files, List.pairwise_map] at increasing
    exact ascending_map.mpr (increasing.imp Utf8.ofString_lt_iff.mpr)
  · rw [← List.mem_map_of_injective packed_injective, ← files, packed, standing]
    rfl
  · simp only [readSources, requireDirectory, here, readListing, read, bind, Except.bind]

end Input

namespace Document

variable {alphabetize : Bool} {name file : String}

theorem ofFileName?_eq_none (named : FileName name) :
    DocumentFormat.ofFileName? name = none ↔ ¬ HasOneOf Input.schemaExtensions name := by
  have letters : ∀ x ∈ Input.schemaExtensions, x.toList.map Char.toLower = x.toList := by decide
  have small : ∀ x ∈ Input.schemaExtensions, Text.asciiLower x = x := fun x hx => by
    rw [Text.asciiLower, ← String.toList_inj, String.toList_map, letters x hx]
  have known {ext : String} : (∃ x ∈ Input.schemaExtensions, Text.asciiLower x = Text.asciiLower ext) ↔
      Text.asciiLower ext ∈ Input.schemaExtensions := by
    constructor
    · rintro ⟨x, hx, same⟩
      rwa [← same, small x hx]
    · exact fun hx => ⟨_, hx, small _ hx⟩
  rw [DocumentFormat.ofFileName?, named.extension?_eq, Input.hasOneOf_iff named]
  cases FilePath.nameExtension? name with
  | none => simp
  | some ext =>
    simp only [Option.map_some, Option.some.injEq, exists_eq_left', known]
    simp only [Input.schemaExtensions, List.mem_cons, List.not_mem_nil, or_false]
    split <;> simp_all

theorem read_eq_unsupported {text : String} : read name text = .error (.unsupportedFormat file) ↔
    DocumentFormat.ofFileName? name = none ∧ name = file := by
  unfold read
  cases DocumentFormat.ofFileName? name with
  | none => simp
  | some format => cases format <;> dsimp only <;> split <;> simp

theorem ofValue_ne_unsupported {v : Json.Value} (keys : v.WellKeyed) :
    ofValue alphabetize name v ≠ .error (.unsupportedFormat file) := by
  by_cases h : Structure.violations v = []
  · intro refused
    obtain ⟨_, _, _, -, -, fault⟩ := (ofValue_refuses_iff alphabetize name keys h).mp refused
    exact fault.ofEntry
  · rw [ofValue_of_violations alphabetize name h]
    exact nofun

theorem parse_eq_unsupported {text : String} :
    parse alphabetize ⟨name, text⟩ = .error (.unsupportedFormat file) ↔
      DocumentFormat.ofFileName? name = none ∧ name = file := by
  rw [parse, Outcome.bind_eq_error, read_eq_unsupported]
  refine or_iff_left ?_
  rintro ⟨v, hread, refused⟩
  exact ofValue_ne_unsupported (wellKeyed_of_read hread) refused

end Document

namespace Input

section Reading

variable {t : FileTree} {path : String} {l : Location} {extensions : List String} {sources : List Source}

theorem readSources_eq_ok (directory : TextDirectory t path l) :
    readSources t path extensions = .ok sources ↔ sources ≠ [] ∧ Listed t l extensions sources := by
  obtain ⟨found, listed, result⟩ := exists_listed directory extensions
  rw [result]
  constructor
  · intro h
    split at h
    · cases h
    · next nonempty =>
      cases h
      exact ⟨mt List.isEmpty_iff.mpr nonempty, listed⟩
  · rintro ⟨nonempty, listed'⟩
    obtain rfl := listed.unique listed'
    rw [if_neg (mt List.isEmpty_iff.mp nonempty)]

theorem readSources_eq_empty (directory : TextDirectory t path l) :
    readSources t path extensions = .error (.empty path) ↔
      ∀ s, Stands t l s → ¬ HasOneOf extensions s.name := by
  obtain ⟨found, listed, result⟩ := exists_listed directory extensions
  have none : found.isEmpty = true ↔ ∀ s, Stands t l s → ¬ HasOneOf extensions s.name := by
    simp only [List.isEmpty_iff, List.eq_nil_iff_forall_not_mem, listed.complete, not_and]
  rw [result, ← none]
  split <;> simp_all

theorem readSources_fails {e : InputError} (directory : TextDirectory t path l)
    (h : readSources t path extensions = .error e) : e = .empty path := by
  obtain ⟨found, -, result⟩ := exists_listed directory extensions
  rw [result] at h
  split at h <;> cases h
  rfl

theorem mem_readSources {s : Source} (directory : TextDirectory t path l) (stands : Stands t l s)
    (has : HasOneOf extensions s.name) :
    ∃ sources, readSources t path extensions = .ok sources ∧ s ∈ sources := by
  obtain ⟨found, listed, result⟩ := exists_listed directory extensions
  have here := (listed.complete s).mpr ⟨stands, has⟩
  rw [if_neg (by simpa using List.ne_nil_of_mem here)] at result
  exact ⟨found, result, here⟩

/-- Reading a directory returns the files in it that have one of the extensions asked for, and fails just when
there are none. Each file either is returned when schema documents are asked for, and then the parser never
takes its format for an unknown one, or it is not, and then the parser always does. -/
theorem readSources_agrees_with_parse (directory : TextDirectory t path l) :
    (∀ extensions,
      (∀ sources, readSources t path extensions = .ok sources ↔
        sources ≠ [] ∧ Listed t l extensions sources) ∧
      (readSources t path extensions = .error (.empty path) ↔
        ∀ s, Stands t l s → ¬ HasOneOf extensions s.name) ∧
      ∀ e, readSources t path extensions = .error e → e = .empty path) ∧
    ∀ alphabetize s, Stands t l s →
      ((∃ sources, readSources t path schemaExtensions = .ok sources ∧ s ∈ sources) ∧
        ∀ text file, Document.parse alphabetize ⟨s.name, text⟩ ≠ .error (.unsupportedFormat file)) ∨
      ((∀ sources, readSources t path schemaExtensions = .ok sources → s ∉ sources) ∧
        ∀ text, Document.parse alphabetize ⟨s.name, text⟩ = .error (.unsupportedFormat s.name)) := by
  refine ⟨fun extensions => ⟨fun sources => readSources_eq_ok directory,
    readSources_eq_empty directory, fun e => readSources_fails directory⟩, fun alphabetize s stands => ?_⟩
  have format := Document.ofFileName?_eq_none (directory.named s.name _ stands)
  by_cases has : HasOneOf schemaExtensions s.name
  · refine .inl ⟨mem_readSources directory stands has, fun text file refused => ?_⟩
    exact format.mp (Document.parse_eq_unsupported.mp refused).1 has
  · refine .inr ⟨fun sources read here => ?_, fun text => ?_⟩
    · obtain ⟨-, listed⟩ := (readSources_eq_ok directory).mp read
      exact has ((listed.complete s).mp here).2
    · exact Document.parse_eq_unsupported.mpr ⟨format.mpr has, rfl⟩

end Reading

/-- Two schema documents, a file of another kind, and a directory that is named like a document; a link
to a document stands beside them. -/
def mixedEntries : List (String × Entry) :=
  [("b.yaml", .file (Utf8.ofString "dataTypes: []")), ("a.JSON", .file (Utf8.ofString "\x7b\x7d")),
    ("notes.txt", .file (Utf8.ofString "skip me")), ("nested.yaml", .directory)]

def mixed : FileTree :=
  ⟨(["schemas"], .directory) :: (["schemas", "linked.json"], .link "a.JSON") ::
    mixedEntries.map fun e => (["schemas", e.1], .entry e.2), []⟩

theorem mem_mixedEntries {name : String} {e : Entry}
    (h : mixed.at? (["schemas"] ++ [name]) = some e) : (name, e) ∈ mixedEntries := by
  obtain ⟨node, found, stands⟩ := Option.bind_eq_some_iff.mp h
  obtain ⟨before, after, whole, -⟩ := List.lookup_eq_some_iff.mp found
  have listed : (["schemas"] ++ [name], node) ∈ mixed.nodes := by
    rw [whole]
    exact List.mem_append_right _ List.mem_cons_self
  cases node with
  | link path => cases stands
  | entry entry =>
    cases stands
    simpa [mixed, Node.directory] using listed

theorem mixed_textDirectory : TextDirectory mixed "schemas" ["schemas"] := by
  have relative : "schemas".startsWith "/" = false := by cbv
  have pieces : Text.piecesAt '/' "schemas" = ["schemas"] := by cbv
  have root : mixed.at? [] = some .directory := rfl
  have there : mixed.at? ["schemas"] = some .directory := rfl
  have parts : mixed.parts "schemas" = .ok ([], ["schemas"]) := by
    simp [FileTree.parts, FileTree.pathFrom, relative, pieces, mixed]
  have node : mixed.node? ["schemas"] = some (.entry .directory) := rfl
  have short : ¬ FileTree.nameLimit < "schemas".utf8ByteSize := by decide
  have names : ∀ name ∈ mixedEntries.map (·.1), name ≠ "" ∧
      (∀ c ∈ name.toList, c ≠ '/' ∧ c ≠ '\x00') ∧ name ≠ "." ∧ name ≠ ".." := by
    simp [mixedEntries]
  refine ⟨?_, there, fun name e h => ?_, fun name contents h => ?_⟩
  · rw [FileTree.locate, parts, FileTree.linkLimit]
    simp [bind, Except.bind, FileTree.follow, FileTree.walk, root, node, short]
  · obtain ⟨named, flat, notHere, notAbove⟩ :=
      names name (List.mem_map.mpr ⟨_, mem_mixedEntries h, rfl⟩)
    exact ⟨named, flat, notHere, notAbove⟩
  · have listed := mem_mixedEntries h
    simp only [mixedEntries, List.mem_cons, Prod.mk.injEq, Entry.file.injEq, reduceCtorEq, and_false,
      List.not_mem_nil, or_false] at listed
    rcases listed with ⟨-, bytes⟩ | ⟨-, bytes⟩ | ⟨-, bytes⟩
    · exact ⟨_, bytes⟩
    · exact ⟨_, bytes⟩
    · exact ⟨_, bytes⟩

theorem readSources_agrees_with_parse_of_mixed :
    TextDirectory mixed "schemas" ["schemas"] ∧ Stands mixed ["schemas"] ⟨"a.JSON", "\x7b\x7d"⟩ ∧
      (∃ sources, readSources mixed "schemas" schemaExtensions = .ok sources ∧
        ⟨"a.JSON", "\x7b\x7d"⟩ ∈ sources) ∧
      ∀ text file, Document.parse false ⟨"a.JSON", text⟩ ≠ .error (.unsupportedFormat file) := by
  have stands : Stands mixed ["schemas"] ⟨"a.JSON", "\x7b\x7d"⟩ := rfl
  have format : DocumentFormat.ofFileName? "a.JSON" = some .json := by cbv
  refine ⟨mixed_textDirectory, stands, ?_⟩
  refine ((readSources_agrees_with_parse mixed_textDirectory).2 false _ stands).resolve_right ?_
  rintro ⟨-, refused⟩
  rw [(Document.parse_eq_unsupported.mp (refused "")).1] at format
  cases format

end Input

end SchemaForge
