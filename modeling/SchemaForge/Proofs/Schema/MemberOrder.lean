import SchemaForge.Proofs.Schema.TypeGraph
import SchemaForge.Proofs.Schema.WellFormed

/-! Sorting members while documents are parsed. An entry is sorted when nothing can fail about it any
more, so that sorting changes no error of parsing; and it moves references only within their data type,
so that all it changes about validation is which reference of a data type is reported. -/

namespace SchemaForge

def DataType.ordered (alphabetize : Bool) (d : DataType) : DataType :=
  if alphabetize then d.alphabetize else d

/-- The same data types, each with its members in the order that is asked for. -/
def Schema.ordered (alphabetize : Bool) (s : Schema) : Schema :=
  { s with dataTypes := s.dataTypes.map (DataType.ordered alphabetize) }

variable (alphabetize alphabetize' : Bool)

namespace Schema

theorem append_ordered (a b : Schema) :
    (a.ordered alphabetize).append (b.ordered alphabetize) = (a.append b).ordered alphabetize :=
  congrArg (Schema.mk _) List.map_append.symm

theorem merge_ordered (schemas : List Schema) :
    merge (schemas.map (ordered alphabetize)) = (merge schemas).ordered alphabetize := by
  have from_any (s : Schema) : (schemas.map (ordered alphabetize)).foldl append (s.ordered alphabetize) =
      (schemas.foldl append s).ordered alphabetize := by
    induction schemas generalizing s with
    | nil => rfl
    | cons s' schemas ih => rw [List.map_cons, List.foldl_cons, append_ordered, ih, List.foldl_cons]
  exact from_any empty

end Schema

namespace Document

theorem entry_ordered (file : String) (v : Json.Value) :
    entry alphabetize file v = (entry false file v).map (DataType.ordered alphabetize) := by
  unfold entry
  cases decodeEntry file v with
  | error e => rfl
  | ok d =>
    simp only [bind, Except.bind]
    cases d.duplicateMember? <;> rfl

theorem ofValue_ordered (file : String) (v : Json.Value) :
    ofValue alphabetize file v = (ofValue false file v).map (Schema.ordered alphabetize) := by
  have entries : entry alphabetize file =
      fun v => (entry false file v).map (DataType.ordered alphabetize) :=
    funext (entry_ordered alphabetize file)
  unfold ofValue
  dsimp only
  split
  · cases v with
    | object o =>
      dsimp only
      rw [entries, Outcome.mapM_map]
      cases (entriesOf o).mapM (entry false file) <;> rfl
    | _ => rfl
  · rfl

theorem parse_ordered (source : Source) :
    parse alphabetize source = (parse false source).map (Schema.ordered alphabetize) := by
  unfold parse
  cases read source.name source.contents with
  | error e => rfl
  | ok v => exact ofValue_ordered alphabetize source.name v

theorem parseAll_ordered (sources : List Source) :
    parseAll alphabetize sources = (parseAll false sources).map (Schema.ordered alphabetize) := by
  unfold parseAll
  rw [funext (parse_ordered alphabetize), Outcome.mapM_map]
  cases sources.mapM (parse false) with
  | error e => rfl
  | ok schemas => exact congrArg Except.ok (Schema.merge_ordered alphabetize schemas)

end Document

namespace DataType

theorem name_ordered (d : DataType) : (d.ordered alphabetize).name = d.name := by
  unfold ordered
  split
  · exact d.name_alphabetize
  · rfl

theorem referencedTypes_alphabetize (d : DataType) :
    d.alphabetize.referencedTypes.Perm d.referencedTypes := by
  cases d with
  | cls c => exact (List.mergeSort_perm c.properties _).map _
  | enum e => exact .refl _

theorem referencedTypes_ordered (d : DataType) :
    (d.ordered alphabetize).referencedTypes.Perm d.referencedTypes := by
  unfold ordered
  split
  · exact d.referencedTypes_alphabetize
  · exact .refl _

end DataType

/-- Faults of one kind: the same, or two references of one data type that lead nowhere. -/
inductive ValidationError.Akin : ValidationError → ValidationError → Prop
  | same (e : ValidationError) : Akin e e
  | dangling (name name' usedBy : String) :
    Akin (.undefinedType name usedBy) (.undefinedType name' usedBy)

theorem TypeRegistry.ofDataTypes_congr {ds ds' : List DataType}
    (h : ds.map (·.name) = ds'.map (·.name)) : ofDataTypes ds = ofDataTypes ds' := by
  have same : build [] ds = build [] ds' := by rw [build_eq, build_eq, h]
  unfold ofDataTypes
  split
  · next names hnames =>
    split
    · next names' hnames' =>
      cases hnames.symm.trans (same.trans hnames')
      rfl
    · next e he => cases hnames.symm.trans (same.trans he)
  · next e he =>
    split
    · next names hnames => cases he.symm.trans (same.trans hnames)
    · next e' he' => rw [Except.error.inj (he.symm.trans (same.trans he'))]

/-- The first hits of two searches belong together where the hits for each item do. -/
theorem findSome?_rel {α β γ : Type} {R : β → γ → Prop} {f : α → Option β} {g : α → Option γ}
    (h : ∀ a, Option.Rel R (f a) (g a)) (items : List α) :
    Option.Rel R (items.findSome? f) (items.findSome? g) := by
  induction items with
  | nil => exact .none
  | cons a items ih =>
    rw [List.findSome?_cons, List.findSome?_cons]
    have here := h a
    generalize f a = hit, g a = hit' at here
    cases here with
    | some related => exact .some related
    | none => exact ih

namespace Schema

theorem names_ordered (s : Schema) : (s.ordered alphabetize).names = s.names := by
  unfold names ordered
  rw [List.map_map]
  exact List.map_congr_left fun d _ => d.name_ordered alphabetize

/-- A data type has a dangling reference in one order just when it has one in the other. -/
theorem find?_ordered_isSome (d : DataType) (p : String → Bool) :
    ((d.ordered alphabetize).referencedTypes.find? p).isSome =
      ((d.ordered alphabetize').referencedTypes.find? p).isSome := by
  have perm : (d.ordered alphabetize).referencedTypes.Perm (d.ordered alphabetize').referencedTypes :=
    (d.referencedTypes_ordered alphabetize).trans (d.referencedTypes_ordered alphabetize').symm
  rw [Bool.eq_iff_iff, List.find?_isSome, List.find?_isSome]
  exact exists_congr fun name => and_congr_left fun _ => perm.mem_iff

theorem unresolved?_ordered (r : TypeRegistry) (predefined : NameSet) (d : DataType) :
    Option.Rel ValidationError.Akin (unresolved? r predefined (d.ordered alphabetize))
      (unresolved? r predefined (d.ordered alphabetize')) := by
  have both := find?_ordered_isSome alphabetize alphabetize' d fun name => !r.resolves predefined name
  unfold unresolved?
  rw [d.name_ordered, d.name_ordered]
  generalize (d.ordered alphabetize).referencedTypes.find? _ = found at both
  generalize (d.ordered alphabetize').referencedTypes.find? _ = found' at both
  cases found with
  | none =>
    cases found' with
    | none => exact .none
    | some name' => cases both
  | some name =>
    cases found' with
    | none => cases both
    | some name' => exact .some (.dangling name name' d.name)

theorem validate_ordered (s : Schema) (predefined : NameSet) :
    Outcome.Matches ValidationError.Akin (fun _ _ => True)
      ((s.ordered alphabetize).validate predefined) ((s.ordered alphabetize').validate predefined) := by
  have registry : TypeRegistry.ofDataTypes (s.ordered alphabetize).dataTypes =
      TypeRegistry.ofDataTypes (s.ordered alphabetize').dataTypes :=
    TypeRegistry.ofDataTypes_congr
      ((s.names_ordered alphabetize).trans (s.names_ordered alphabetize').symm)
  unfold validate
  rw [registry]
  cases TypeRegistry.ofDataTypes (s.ordered alphabetize').dataTypes with
  | error e => exact .error (.same e)
  | ok r =>
    have first := findSome?_rel (unresolved?_ordered alphabetize alphabetize' r predefined) s.dataTypes
    simp only [bind, Except.bind, ordered, List.findSome?_map, Function.comp_def]
    generalize s.dataTypes.findSome? _ = fault at first ⊢
    generalize s.dataTypes.findSome? _ = fault' at first ⊢
    cases first with
    | some akin => exact .error akin
    | none => exact .ok trivial

end Schema

end SchemaForge
