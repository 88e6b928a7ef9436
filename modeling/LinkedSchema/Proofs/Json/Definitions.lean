import LinkedSchema.Proofs.Json.Literals
import LinkedSchema.Proofs.Json.Text
import LinkedSchema.Proofs.Linking.WellFormed
import LinkedSchema.Proofs.Loading.Histories

/-!
# Reading definitions back

A type is made if it is built into the language, is built from a node of a document, or is merged
from two types that are made (`TypeDefinition.Made`).  Building and merging never let a name stand
twice in a table (`TypeDefinition.Made.tabled`).  Hence every type that is made is read back from
its form and from the text of its form, unless there is a number with a fraction in it
(`TypeDefinition.Made.restored`).  In the literals of a type no key stands twice if the nodes of
which it is made come from documents (`TypeDefinition.Parsed.tables`).
-/

namespace LinkedSchema

open Document (AppliedDirective InputNode FieldNode EnumValueNode TypeNode)

/-! ### What sound nodes make -/

/-- Of the arguments of one name that an applied directive has, its annotation keeps one. -/
theorem Annotation.tabled_of_mem_ofDirectives {owner : Location} {site : Site} {ancestry : Path}
    {directives : List AppliedDirective} :
  ∀ a ∈ ofDirectives owner site ancestry directives, a.Tabled
  := by
  intro a member
  obtain ⟨d, -, rfl⟩ := List.mem_map.mp member
  exact OrderedMap.nodup_keys_insertAll (m := .empty) List.nodup_nil d.arguments

namespace Document

theorem InputNode.AllSound.registers_tabled {nodes : List InputNode}
    (sound : InputNode.AllSound nodes) (site : Site) (ancestry : Path) (parent : Location)
    (n : Nat) :
  (defineAll site ancestry parent n nodes).Registers InputDefinition.name InputDefinition.Tabled
  := by
  apply registers_numbered sound.2
  · intro n node
    rfl
  · intro n node member
    apply Annotation.tabled_of_mem_ofDirectives

theorem FieldNode.Sound.tabled_define {node : FieldNode} (sound : node.Sound) (owner : Path)
    (location : Location) (n : Nat) :
  (node.define owner location n).Tabled
  where
  directives := Annotation.tabled_of_mem_ofDirectives
  arguments := sound.2.1.registers_tabled _ _ _ _

/-- No name stands twice in the tables of what a sound node of a type makes. -/
theorem TypeNode.Sound.tabled_define {node : TypeNode} (sound : node.Sound) (file : Option String)
    (n : Nat) :
  (node.define file n).Tabled
  where
  directives := Annotation.tabled_of_mem_ofDirectives
  fields := by
    apply registers_numbered sound.fields.2
    · intro n field
      rfl
    · intro n field member
      apply (sound.fields.1 field member).tabled_define
  inputFields := sound.inputFields.registers_tabled _ _ _ _
  enumValues := by
    rw [define, EnumValueNode.defineAll, ← Drafting.numbered_eq_map (fun _ => 0) _ 0]
    apply registers_numbered sound.values.2
    · intro n value
      rfl
    · intro n value member
      apply Annotation.tabled_of_mem_ofDirectives

end Document

/-! ### Types that are made -/

namespace TypeDefinition

/-- Whether a type is built into the language, is built from a node of a file, or is merged from two
types that are made. -/
inductive Made : TypeDefinition → Prop where
  | scalar (name description : String) : Made (BuiltIn.scalar name description)
  | built {file : Option String} {node : TypeNode} {registry : Registry} {type : TypeDefinition} :
      (node.build file registry).1 = .ok type → Made type
  | merged {directives : OrderedMap String DirectiveDefinition}
      {base extension type : TypeDefinition} :
      Made base → Made extension → base.merge directives extension = .ok type → Made type

theorem Tabled.extendWith {base extension : TypeDefinition} (h : base.Tabled)
    (h' : extension.Tabled) :
  (base.extendWith extension).Tabled
  where
  directives := List.forall_mem_append.mpr ⟨h.directives, h'.directives⟩
  fields := h.fields.insertAll h'.fields
  inputFields := h.inputFields.insertAll h'.inputFields
  enumValues := h.enumValues.insertAll h'.enumValues

/-- Whether a type can be held by a machine: its objects are tables, in which no key stands twice,
and its lines, columns and symbols are words. -/
structure Representable (type : TypeDefinition) : Prop where
  tables : ∀ value, .literal value ∈ type.leaves → value.Everywhere Value.Tabled
  words : ∀ n, .number n ∈ type.leaves → n < UInt64.size

/-! ### Types that are made from documents -/

/-- Whether a type is built into the language, is built from a node of a document, or is merged from
two such types. -/
inductive Parsed : TypeDefinition → Prop where
  | scalar (name description : String) : Parsed (BuiltIn.scalar name description)
  | built {text : String} {ds : List Document.Definition} {node : TypeNode} {file : Option String}
      {registry : Registry} {type : TypeDefinition} :
      Document.parseSchema text = .ok ds → .type node ∈ ds ∨ .extension node ∈ ds →
      (node.build file registry).1 = .ok type → Parsed type
  | merged {directives : OrderedMap String DirectiveDefinition}
      {base extension type : TypeDefinition} :
      Parsed base → Parsed extension → base.merge directives extension = .ok type → Parsed type

namespace Parsed

variable {type : TypeDefinition}

theorem made (parsed : type.Parsed) :
  type.Made
  := by
  induction parsed with
  | scalar name description => apply Made.scalar
  | built _ _ built => apply Made.built built
  | merged _ _ merged base extension => apply Made.merged base extension merged

/-- What holds of all values that are read holds of all literals of a type that is made from
documents. -/
theorem satisfies {P : Value → Prop}
    (values : ∀ constant room, (Document.Reader.value constant room).Gives P)
    (parsed : type.Parsed) :
  ∀ leaf ∈ type.leaves, leaf.Satisfies P
  := by
  induction parsed with
  | scalar name description => nofun
  | @built text ds node file registry type document member built =>
    obtain ⟨-, rfl⟩ := TypeNode.eq_define_of_build built
    have literals := Document.allLiterals_of_parseSchema values document
    have all : node.AllLiterals P := by
      rcases member with definition | extension
      · apply literals _ definition
      · apply literals _ extension
    apply all.satisfies
  | merged _ _ merged base extension =>
    obtain ⟨-, rfl⟩ := merge_eq_ok_iff.mp merged
    apply satisfies_extendWith base extension

/-- No key stands twice in the literals of a type that is made from documents. -/
theorem tables (parsed : type.Parsed) :
  ∀ value, .literal value ∈ type.leaves → value.Everywhere Value.Tabled
  := fun value held => parsed.satisfies Document.Reader.gives_value (.literal value) held

end Parsed

/-! ### Restored types -/

namespace Made

variable {type : TypeDefinition}

/-- No name stands twice in the tables of a type that is made. -/
theorem tabled (made : type.Made) :
  type.Tabled
  := by
  induction made with
  | scalar name description => exact ⟨nofun, .empty, .empty, .empty⟩
  | built built =>
    obtain ⟨sound, rfl⟩ := TypeNode.eq_define_of_build built
    apply sound.tabled_define
  | merged _ _ merged base extension =>
    obtain ⟨-, rfl⟩ := merge_eq_ok_iff.mp merged
    apply base.extendWith extension

/-- A type that is made, and has no number with a fraction in its literals, is read back from its
form, and from the text of its form. -/
theorem restored (made : type.Made) (representable : type.Representable)
    (fractionless : ∀ value, .literal value ∈ type.leaves → value.Everywhere Value.Fractionless) :
  ofJson? type.toJson = some type ∧ (Json.parse? type.toJson.text).bind ofJson? = some type
  := by
  have storable : ∀ leaf ∈ type.leaves, leaf.Storable := by
    intro leaf held
    cases leaf with
    | literal value => exact ⟨fractionless value held, representable.tables value held⟩
    | number n => exact representable.words n held
  have restores := TypeDefinition.restores made.tabled storable
  use restores.reads
  rw [Json.parse?_text restores.form, Option.bind_some, restores.reads]

/-- A text in which the defaults of arguments are null, look like it, or are absent. -/
def textWithNulls : String :=
  "type T@d(x:\x7bk:[1]\x7d)\x7bf(n:[E!]!=null e:E=Null s:String=\"Null\" a:E):T\x7d"
    ++ "extend type T{g:ID}"

/-- The literals of that text. -/
def literalsWithNulls : List Value :=
  [.null, .enum "Null", .string "Null", .object [("k", .list [.int 1])]]

theorem fractionless_of_mem_literalsWithNulls :
  ∀ value ∈ literalsWithNulls, value.Everywhere Value.Fractionless
  := by
  have item : (Value.int 1).Everywhere Value.Fractionless := .of_atom nofun nofun trivial
  have list : (Value.list [.int 1]).Everywhere Value.Fractionless :=
    Value.Everywhere.list_iff.mpr ⟨trivial, List.forall_mem_singleton.mpr item⟩
  simp only [literalsWithNulls, List.forall_mem_cons]
  refine ⟨.of_atom nofun nofun trivial, .of_atom nofun nofun trivial, .of_atom nofun nofun trivial,
    ?_, nofun⟩
  exact Value.Everywhere.object_iff.mpr ⟨trivial, List.forall_mem_singleton.mpr list⟩

/-- The type of that text is read back with its extension, and its defaults stay apart. -/
theorem restored_nulls :
  ∃ node extension base part type,
    Document.parseSchema textWithNulls = .ok [.type node, .extension extension]
    ∧ (node.build (some "a") .empty).1 = .ok base ∧ (extension.build none .empty).1 = .ok part
    ∧ base.merge .empty part = .ok type ∧ type.Made ∧ type.Representable
    ∧ (∀ value, .literal value ∈ type.leaves → value.Everywhere Value.Fractionless)
    ∧ ((type.fields.get? "f").map fun field =>
        field.arguments.values.map InputDefinition.defaultValue)
      = some [some .null, some (.enum "Null"), some (.string "Null"), none]
    ∧ ofJson? type.toJson = some type ∧ (Json.parse? type.toJson.text).bind ofJson? = some type
  := by
  have run : (Document.parseSchema textWithNulls).toOption.any fun ds =>
      (Document.typeNodes ds)[0]?.any fun node =>
      (Document.extensionNodes ds)[0]?.any fun extension =>
        (node.build (some "a") .empty).1.toOption.any fun base =>
          (extension.build none .empty).1.toOption.any fun part =>
            (base.merge .empty part).toOption.any fun type =>
              decide (ds = [.type node, .extension extension]
                ∧ (∀ leaf ∈ type.leaves, leaf ∈ literalsWithNulls.map Leaf.literal
                  ∨ leaf ∈ (List.range 100).map Leaf.number)
                ∧ ((type.fields.get? "f").map fun field =>
                    field.arguments.values.map InputDefinition.defaultValue)
                  = some [some .null, some (.enum "Null"), some (.string "Null"), none]) := by
    decide +kernel
  obtain ⟨ds, parsed, run⟩ := Except.exists_ok_of_any run
  obtain ⟨node, -, run⟩ := (Option.any_eq_true _ _).mp run
  obtain ⟨extension, -, run⟩ := (Option.any_eq_true _ _).mp run
  obtain ⟨base, built, run⟩ := Except.exists_ok_of_any run
  obtain ⟨part, part_built, run⟩ := Except.exists_ok_of_any run
  obtain ⟨type, merged, run⟩ := Except.exists_ok_of_any run
  obtain ⟨rfl, leaves, defaults⟩ := of_decide_eq_true run
  have literal : ∀ value, .literal value ∈ type.leaves → value ∈ literalsWithNulls := by
    intro value held
    simpa using leaves _ held
  have number : ∀ n, .number n ∈ type.leaves → n < 100 := by
    intro n held
    simpa using leaves _ held
  have from_text := Parsed.merged (.built parsed (.inl List.mem_cons_self) built)
    (.built parsed (.inr (List.mem_cons_of_mem _ List.mem_cons_self)) part_built) merged
  have representable : type.Representable := by
    constructor
    · apply from_text.tables
    · intro n held
      apply (number n held).trans
      decide
  have fractionless : ∀ value, .literal value ∈ type.leaves
      → value.Everywhere Value.Fractionless := by
    intro value held
    apply fractionless_of_mem_literalsWithNulls value (literal value held)
  obtain ⟨form, text⟩ := restored from_text.made representable fractionless
  exact ⟨node, extension, base, part, type, parsed, built, part_built, merged, from_text.made,
    representable, fractionless, defaults, form, text⟩

end Made

end TypeDefinition

end LinkedSchema
