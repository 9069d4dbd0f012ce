import Mathlib.Data.List.Forall2
import StackLexer.Loader.Entry
import StackLexer.Proofs.Document.Json

namespace StackLexer

namespace Json.Data

mutual

-- What the data stands for.
def value : Data → Value
  | null => .scalar .null
  | flag value => .scalar (.bool value)
  | string value => .scalar (.string value.toList)
  | list items => .sequence (itemValues items)
  | record fields => .mapping (fieldValues fields)

def itemValues : List Data → List Value
  | [] => []
  | item :: rest => item.value :: itemValues rest

def fieldValues : List (String × Data) → List (Value × Value)
  | [] => []
  | (key, value) :: rest => (.scalar (.string key.toList), value.value) :: fieldValues rest

end

-- No more containers than that stand one in another.
inductive Within : Nat → Data → Prop where
  | null {room} : Within room null
  | flag {room value} : Within room (flag value)
  | string {room value} : Within room (string value)
  | list {room items} (h : ∀ item ∈ items, Within room item) : Within (room + 1) (list items)
  | record {room fields} (h : ∀ field ∈ fields, Within room field.2) :
      Within (room + 1) (record fields)

theorem Within.mono {data : Data} {room more : Nat} (h : data.Within room) (hle : room ≤ more) :
    data.Within more := by
  induction h generalizing more with
  | null => exact .null
  | flag => exact .flag
  | string => exact .string
  | list _ ih =>
    obtain ⟨less, rfl⟩ : ∃ less, more = less + 1 := ⟨more - 1, by omega⟩
    exact .list fun item hmem => ih item hmem (by omega)
  | record _ ih =>
    obtain ⟨less, rfl⟩ : ∃ less, more = less + 1 := ⟨more - 1, by omega⟩
    exact .record fun field hmem => ih field hmem (by omega)

end Json.Data

open Json (Data)

-- With room for that many containers the reader gives the value, and follows no alias.
def Reader.Gives {α : Type} (reader : Reader α) (room : Nat) (value : α) : Prop :=
  ∀ scope jumps, scope.document.format = .json → room ≤ scope.room →
    reader scope jumps = .ok (value, jumps)

namespace Reader

namespace Gives

variable {α β : Type} {reader : Reader α} {room : Nat} {value : α}

theorem pure : Gives (Pure.pure value) room value := fun _ _ _ _ => rfl

theorem bind {next : α → Reader β} {result : β} (h : reader.Gives room value)
    (hnext : (next value).Gives room result) : Gives (reader >>= next) room result := by
  intro scope jumps hformat hroom
  have hfirst := h scope jumps hformat hroom
  simp only [Bind.bind, ReaderT.bind, StateT.bind, Except.bind, hfirst]
  exact hnext scope jumps hformat hroom

theorem map {f : α → β} (h : reader.Gives room value) : Gives (f <$> reader) room (f value) := by
  rw [map_eq_pure_bind]
  exact h.bind pure

theorem mapFault {change : ReadFault → ReadFault} (h : reader.Gives room value) :
    Gives (reader.mapFault change) room value := by
  intro scope jumps hformat hroom
  rw [Reader.mapFault, h scope jumps hformat hroom]
  rfl

theorem located (h : reader.Gives room value) : Gives reader.located room value := h.mapFault

theorem under {step : Step} (h : reader.Gives room value) : Gives (reader.under step) room value :=
  h.mapFault

theorem inside (h : reader.Gives room value) : Gives reader.inside (room + 1) value := by
  intro scope jumps hformat hroom
  obtain ⟨less, hless⟩ : ∃ less, scope.room = less + 1 := ⟨scope.room - 1, by omega⟩
  unfold Reader.inside
  rw [hless]
  exact h { scope with room := less } jumps hformat (by simp only; omega)

end Gives

end Reader

namespace Loader

open Reader

variable {α σ : Type} {room : Nat}

theorem format_gives : format.Gives room .json := by
  intro scope jumps hformat _
  show Except.ok (scope.document.format, jumps) = _
  rw [hformat]

-- No data has an alias.
theorem settled_gives (data : Data) : (settled data.node).Gives room data.node := by
  cases data <;> exact .pure

theorem meant_gives {scalar : Scalar} {meaning : Meaning}
    (h : Json.meaning scalar = .ok meaning) : (meant scalar).Gives room meaning := by
  unfold meant
  refine format_gives.bind ?_
  simp only [h]
  exact .pure

theorem readText_gives (wanted value : String) :
    (readText wanted (Data.string value).node).Gives room value := by
  unfold readText
  refine (settled_gives (.string value)).bind ?_
  refine format_gives.bind ?_
  refine (meant_gives (Json.meaning_quoted value.toList)).located.bind ?_
  simp only [String.ofList_toList]
  exact .pure

theorem readString_gives (value : String) :
    (readString (Data.string value).node).Gives room value :=
  readText_gives _ value

theorem meaning_flag (value : Bool) :
    Json.meaning ⟨if value then "true".toList else "false".toList, .plain, none⟩ =
      .ok (.bool value) := by
  cases value <;> rfl

theorem readBool_gives (value : Bool) : (readBool (Data.flag value).node).Gives room value := by
  unfold readBool readScalar
  refine (settled_gives (.flag value)).bind ?_
  refine format_gives.bind ?_
  refine (meant_gives (meaning_flag value)).located.map.bind ?_
  exact .pure

-- A null and nothing else stands for a value that is left out.
def isMissing : Data → Bool
  | .null => true
  | _ => false

theorem isNull_gives (data : Data) : (isNull data.node).Gives room (isMissing data) := by
  unfold isNull
  refine format_gives.bind ?_
  cases data with
  | flag value => cases value <;> exact .pure
  | _ => exact .pure

theorem readOptional_null {read : Node → Reader α} :
    (readOptional read Data.null.node).Gives room none := by
  unfold readOptional
  refine (settled_gives .null).bind ?_
  refine (isNull_gives .null).bind ?_
  exact .pure

theorem readOptional_some {read : Node → Reader α} {data : Data} {value : α}
    (hdata : isMissing data = false) (h : (read data.node).Gives room value) :
    (readOptional read data.node).Gives room (some value) := by
  unfold readOptional
  refine (settled_gives data).bind ?_
  refine (isNull_gives data).bind ?_
  rw [hdata]
  exact h.map

theorem readItems_gives {read : Node → Reader α} {items : List Data} {values : List α}
    (h : List.Forall₂ (fun data value => (read data.node).Gives room value) items values)
    (index : Nat) : (readItems read index (Data.itemNodes items)).Gives room values := by
  induction h generalizing index with
  | nil => exact .pure
  | cons hfirst _ ih => exact hfirst.under.bind ((ih (index + 1)).bind .pure)

theorem readList_gives {read : Node → Reader α} {data : α → Data} {values : List α}
    (h : ∀ value ∈ values, (read (data value).node).Gives room value) :
    (readList read (Data.list (values.map data)).node).Gives (room + 1) values := by
  have hitems : List.Forall₂ (fun data value => (read data.node).Gives room value)
      (values.map data) values :=
    List.forall₂_map_left_iff.mpr (List.forall₂_same.mpr h)
  unfold readList
  refine (settled_gives (.list (values.map data))).bind ?_
  exact (readItems_gives hitems 0).inside.located

section Pairs

variable {readKey : Node → Reader String} {add : String → Step → Node → σ → Reader σ}

-- Each field takes the state to the next one.
inductive Adds (add : String → Step → Node → σ → Reader σ) (room : Nat) :
    List (String × Data) → σ → σ → Prop where
  | nil {state} : Adds add room [] state state
  | cons {name data rest state next last}
      (hfirst : ∀ step, (add name step data.node state).Gives room next)
      (hrest : Adds add room rest next last) : Adds add room ((name, data) :: rest) state last

theorem readPairs_gives (hkey : ∀ name, (readKey (Json.keyNode name)).Gives room name)
    {fields : List (String × Data)} {state last : σ} (h : Adds add room fields state last) :
    (readPairs readKey add (Data.fieldNodes fields) state).Gives room last := by
  induction h with
  | nil => exact .pure
  | cons hfirst _ ih => exact (hkey _).bind ((hfirst _).bind ih)

end Pairs

section Shapes

variable {shape : Shape σ}

-- Each field of a record is one of the structure, and takes what was read so far to the next.
inductive Shape.Fills (shape : Shape σ) (room : Nat) : List (String × Data) → σ → σ → Prop where
  | nil {record} : Fills shape room [] record record
  | cons {name data rest record next last} (hknown : shape.fields.contains name = true)
      (hfirst : (shape.read name data.node record).Gives room next)
      (hrest : Fills shape room rest next last) :
      Fills shape room ((name, data) :: rest) record last

theorem Shape.Fills.adds {fields : List (String × Data)} {record last : σ}
    (h : shape.Fills room fields record last) (hnodup : (fields.map (·.1)).Nodup)
    (seen : List String) (hseen : ∀ field ∈ fields, field.1 ∉ seen) :
    Adds shape.addField room fields ⟨record, seen⟩ ⟨last, (fields.map (·.1)).reverse ++ seen⟩ := by
  induction h generalizing seen with
  | nil => exact .nil
  | @cons name data rest record next last hknown hfirst _ ih =>
    obtain ⟨hname, hrest⟩ := List.nodup_cons.mp hnodup
    obtain ⟨hfresh, hlater⟩ := List.forall_mem_cons.mp hseen
    have hadds := ih hrest (name :: seen) (by
      intro field hmem
      refine List.not_mem_cons_of_ne_of_not_mem ?_ (hlater field hmem)
      rintro rfl
      exact hname (List.mem_map.mpr ⟨field, hmem, rfl⟩))
    have hlast : (name :: rest.map (·.1)).reverse ++ seen =
        (rest.map (·.1)).reverse ++ name :: seen := by simp
    rw [List.map_cons, hlast]
    refine .cons (fun step => ?_) hadds
    have hnew : seen.contains name = false := by simpa using hfresh
    unfold Shape.addField
    rw [hknown, hnew]
    exact hfirst.under.bind .pure

theorem Shape.finish_gives {last : σ} {seen : List String}
    (hrequired : ∀ name ∈ shape.required, name ∈ seen) :
    (shape.finish ⟨last, seen⟩).Gives room last := by
  have hfind : shape.required.find? (fun name => !seen.contains name) = none := by
    simpa using hrequired
  unfold Shape.finish
  dsimp only
  rw [hfind]
  exact .pure

-- A structure is read from a record of its fields, if all that must be there is.
theorem Shape.readNode_gives {fields : List (String × Data)} {start last : σ}
    (h : shape.Fills room fields start last) (hnodup : (fields.map (·.1)).Nodup)
    (hrequired : ∀ name ∈ shape.required, name ∈ fields.map (·.1)) :
    (shape.readNode start (Data.record fields).node).Gives (room + 1) last := by
  have hpairs := readPairs_gives (readText_gives "field identifier")
    (h.adds hnodup [] (by simp))
  unfold Shape.readNode
  refine (settled_gives (.record fields)).bind (format_gives.bind ?_)
  exact (hpairs.bind (Shape.finish_gives (by simpa using hrequired))).inside.located

end Shapes

section Values

theorem readMeaning_gives {scalar : Scalar} {meaning : Meaning}
    (h : Json.meaning scalar = .ok meaning) (hlarge : isLarge meaning = false) :
    (readMeaning scalar).Gives room meaning := by
  unfold readMeaning
  refine (meant_gives h).bind ?_
  rw [hlarge]
  exact .pure

theorem readValueWith_scalar {inner? : Option (Node → Reader Value)} {text : Text} {style : Style}
    {meaning : Meaning} (h : Json.meaning ⟨text, style, none⟩ = .ok meaning)
    (hlarge : isLarge meaning = false) :
    (readValueWith inner? (Json.leaf text style)).Gives room (.scalar meaning) := by
  unfold readValueWith
  refine Gives.bind .pure ?_
  refine Gives.located ?_
  exact (readMeaning_gives h hlarge).bind .pure

theorem readValuePairs_gives {read : Node → Reader Value} {fields : List (String × Data)}
    (hkey : ∀ name, (read (Data.string name).node).Gives room (Data.string name).value)
    (h : ∀ field ∈ fields, (read field.2.node).Gives room field.2.value) :
    (readValuePairs read (Data.fieldNodes fields)).Gives room (Data.fieldValues fields) := by
  induction fields with
  | nil => exact .pure
  | cons field rest ih =>
    obtain ⟨hfirst, hrest⟩ := List.forall_mem_cons.mp h
    exact (hkey field.1).bind (hfirst.under.bind ((ih hrest).bind .pure))

theorem forall₂_itemValues {read : Node → Reader Value} {items : List Data}
    (h : ∀ item ∈ items, (read item.node).Gives room item.value) :
    List.Forall₂ (fun data value => (read data.node).Gives room value) items
      (Data.itemValues items) := by
  induction items with
  | nil => exact .nil
  | cons item rest ih =>
    obtain ⟨hfirst, hrest⟩ := List.forall_mem_cons.mp h
    exact .cons hfirst (ih hrest)

theorem readValueWithin_scalar {depth : Nat} {text : Text} {style : Style} {meaning : Meaning}
    (h : Json.meaning ⟨text, style, none⟩ = .ok meaning) (hlarge : isLarge meaning = false) :
    (readValueWithin depth (Json.leaf text style)).Gives room (.scalar meaning) := by
  cases depth <;> exact readValueWith_scalar h hlarge

theorem readValueWithin_gives {data : Data} {depth : Nat} (h : data.Within depth) :
    (readValueWithin depth data.node).Gives room data.value := by
  have hstring (depth : Nat) (text : String) :
      (readValueWithin depth (Data.string text).node).Gives room (Data.string text).value :=
    readValueWithin_scalar (Json.meaning_quoted _) rfl
  induction h with
  | null => exact readValueWithin_scalar rfl rfl
  | flag => exact readValueWithin_scalar (meaning_flag _) rfl
  | string => exact hstring _ _
  | list _ ih =>
    refine Gives.bind .pure ?_
    refine Gives.located ?_
    exact (readItems_gives (forall₂_itemValues ih) 0).bind .pure
  | record _ ih =>
    refine Gives.bind .pure ?_
    refine Gives.located ?_
    exact (readValuePairs_gives (hstring _) ih).bind .pure

-- As many containers may be opened as there is room for.
theorem readValue_gives {data : Data} (h : data.Within room) :
    (readValue data.node).Gives room data.value := by
  intro scope jumps hformat hroom
  exact readValueWithin_gives (h.mono hroom) scope jumps hformat hroom

end Values

end Loader

end StackLexer
