import Mathlib.Data.List.Nodup
import SourceOutline.Settings.Layers

/-!
# Keys of tables

A key stands once in a table, and so it does in the tables inside. This holds for the tables of a
document, whether headers, assignments with a path or braces make them, and for those that
environment variables describe. Arrays are left out: nothing is looked up in the tables of an array.
-/

namespace SourceOutline.Toml

/-! ## Entries -/

section Entries

variable {α : Type}

/-- The entries with the item at a key put in place, or added at the end. -/
def putEntry (key : String) (item : α) : List (String × α) → List (String × α)
  | [] => [(key, item)]
  | (other, old) :: rest =>
    if other == key then (other, item) :: rest else (other, old) :: putEntry key item rest

/-- Entries of values are put as all entries are. -/
theorem Value.put_eq (key : String) (value : Value) (entries : List (String × Value)) :
    Value.put key value entries = putEntry key value entries := by
  fun_induction Value.put key value entries with
  | case1 => rfl
  | case2 other old rest same => rw [putEntry, if_pos same]
  | case3 other old rest different ih => rw [putEntry, if_neg different, ih]

/-- Entries of nodes are put as all entries are. -/
theorem Node.put_eq (key : String) (node : Node) (entries : List (String × Node)) :
    Node.put key node entries = putEntry key node entries := by
  fun_induction Node.put key node entries with
  | case1 => rfl
  | case2 other old rest same => rw [putEntry, if_pos same]
  | case3 other old rest different ih => rw [putEntry, if_neg different, ih]

/-- An entry is the one put, or was there before. -/
theorem mem_of_mem_putEntry {key : String} {item : α} {entries : List (String × α)}
    {entry : String × α} (listed : entry ∈ putEntry key item entries) :
    entry = (key, item) ∨ entry ∈ entries := by
  fun_induction putEntry key item entries with
  | case1 => exact Or.inl (List.mem_singleton.mp listed)
  | case2 other old rest same =>
    rw [eq_of_beq same] at listed
    exact (List.mem_cons.mp listed).imp_right (List.mem_cons_of_mem _)
  | case3 other old rest different ih =>
    rcases List.mem_cons.mp listed with first | later
    · exact Or.inr (List.mem_cons.mpr (Or.inl first))
    · exact (ih later).imp_right (List.mem_cons_of_mem _)

/-- Each key stands once, and every item is as it should be. -/
structure Unique (holds : α → Prop) (entries : List (String × α)) : Prop where
  /-- Each key stands once. -/
  keys : (entries.map (·.1)).Nodup
  /-- Every item is as it should be. -/
  items : ∀ entry ∈ entries, holds entry.2

variable {holds : α → Prop} {entries : List (String × α)}

/-- No two of no entries share a key. -/
theorem Unique.nil : Unique holds [] := ⟨List.nodup_nil, by simp⟩

/-- One entry shares its key with no other. -/
theorem Unique.singleton (key : String) {item : α} (fits : holds item) :
    Unique holds [(key, item)] :=
  ⟨List.nodup_singleton key, by simpa using fits⟩

/-- A key that is put in place is not added again. -/
theorem Unique.put (unique : Unique holds entries) (key : String) {item : α} (fits : holds item) :
    Unique holds (putEntry key item entries) := by
  refine ⟨?_, fun entry listed => ?_⟩
  · have keys := unique.keys
    clear unique
    fun_induction putEntry key item entries with
    | case1 => exact List.nodup_singleton key
    | case2 => exact keys
    | case3 other old rest different ih =>
      obtain ⟨fresh, later⟩ := List.nodup_cons.mp keys
      refine List.nodup_cons.mpr ⟨?_, ih later⟩
      intro again
      obtain ⟨entry, listed, same⟩ := List.mem_map.mp again
      rcases mem_of_mem_putEntry listed with rfl | old
      · exact different (beq_iff_eq.mpr same.symm)
      · exact fresh (List.mem_map.mpr ⟨entry, old, same⟩)
  · rcases mem_of_mem_putEntry listed with rfl | old
    · exact fits
    · exact unique.items entry old

/-- What is found at a key is as it should be. -/
theorem Unique.found (unique : Unique holds entries) {key : String} {item : α}
    (found : (entries.find? (·.1 == key)).map (·.2) = some item) : holds item := by
  obtain ⟨entry, listed, rfl⟩ := Option.map_eq_some_iff.mp found
  exact unique.items entry (List.mem_of_find?_eq_some listed)

end Entries

/-- What steps keep and the start has, the end has, if all items are as they should be. -/
theorem of_foldlM {State Item : Type} {step : State → Item → Option State} {holds : State → Prop}
    {fits : Item → Prop}
    (keeps : ∀ state item next, holds state → fits item → step state item = some next → holds next)
    {items : List Item} (all : ∀ item ∈ items, fits item) {start last : State}
    (first : holds start) (ran : items.foldlM step start = some last) : holds last := by
  induction items generalizing start with
  | nil => exact Option.some.inj ran ▸ first
  | cons item items ih =>
    obtain ⟨fit, others⟩ := List.forall_mem_cons.mp all
    rw [List.foldlM_cons] at ran
    obtain ⟨next, stepped, later⟩ := Option.bind_eq_some_iff.mp ran
    exact ih others (keeps start item next first fit stepped) later

/-! ## Values and nodes -/

/-- Each key of a table stands once, and so it does in the tables inside. -/
inductive Value.Distinct : Value → Prop
  | table {entries : List (String × Value)} (keys : (entries.map (·.1)).Nodup)
      (items : ∀ entry ∈ entries, Distinct entry.2) : Distinct (.table entries)
  | plain {value : Value} (other : ∀ entries, value ≠ .table entries) : Distinct value

/-- Each key of a table that can grow stands once, and so it does in the tables inside. -/
inductive Node.Distinct : Node → Prop
  | value {complete : Value} (distinct : complete.Distinct) : Distinct (.value complete)
  | table {origin : Origin} {entries : List (String × Node)} (keys : (entries.map (·.1)).Nodup)
      (items : ∀ entry ∈ entries, Distinct entry.2) : Distinct (.table origin entries)
  | tables {earlier : List Value} {entries : List (String × Node)} :
      Distinct (.tables earlier entries)

/-- A table has distinct keys at every depth if its entries do. -/
theorem Value.distinct_table_iff {entries : List (String × Value)} :
    (Value.table entries).Distinct ↔ Unique Value.Distinct entries := by
  constructor
  · rintro (⟨keys, items⟩ | ⟨other⟩)
    · exact ⟨keys, items⟩
    · exact absurd rfl (other entries)
  · rintro ⟨keys, items⟩
    exact .table keys items

/-- A table under construction has distinct keys at every depth if its entries do. -/
theorem Node.distinct_table_iff {origin : Origin} {entries : List (String × Node)} :
    (Node.table origin entries).Distinct ↔ Unique Node.Distinct entries := by
  constructor
  · rintro (_ | ⟨keys, items⟩ | _)
    exact ⟨keys, items⟩
  · rintro ⟨keys, items⟩
    exact .table keys items

namespace Node

/-- Entries are frozen one by one. -/
theorem freezeEntries_eq (entries : List (String × Node)) :
    freezeEntries entries = entries.map fun entry => (entry.1, entry.2.freeze) := by
  induction entries with
  | nil => rw [freezeEntries, List.map_nil]
  | cons entry entries ih => rw [freezeEntries, List.map_cons, ih]

/-- Freezing keeps the keys. -/
theorem unique_freezeEntries {entries : List (String × Node)}
    (keys : (entries.map (·.1)).Nodup) (items : ∀ entry ∈ entries, entry.2.freeze.Distinct) :
    Unique Value.Distinct (freezeEntries entries) := by
  rw [freezeEntries_eq]
  refine ⟨by simpa [Function.comp_def] using keys, ?_⟩
  rintro _ listed
  obtain ⟨entry, member, rfl⟩ := List.mem_map.mp listed
  exact items entry member

/-- A frozen node has distinct keys if the node does. -/
theorem Distinct.freeze {node : Node} (distinct : node.Distinct) : node.freeze.Distinct := by
  induction distinct with
  | value complete =>
    rw [Node.freeze]
    exact complete
  | table keys _ ih =>
    rw [Node.freeze]
    exact Value.distinct_table_iff.mpr (unique_freezeEntries keys ih)
  | tables =>
    rw [Node.freeze]
    exact .plain (by simp)

/-- Tables that have grown with their keys apart are complete with their keys apart. -/
theorem distinct_freezeEntries {entries : List (String × Node)}
    (unique : Unique Node.Distinct entries) : (Value.table (freezeEntries entries)).Distinct :=
  Value.distinct_table_iff.mpr
    (unique_freezeEntries unique.keys fun entry listed => (unique.items entry listed).freeze)

/-! ## Changes to tables -/

/-- Putting a node keeps keys distinct. -/
theorem unique_put {entries : List (String × Node)} (unique : Unique Node.Distinct entries)
    (key : String) {node : Node} (distinct : node.Distinct) :
    Unique Node.Distinct (put key node entries) :=
  put_eq key node entries ▸ unique.put key distinct

/-- An assignment of a value keeps keys apart. -/
theorem unique_of_assign? {assigned : Value} (distinct : assigned.Distinct) {path : List String}
    {entries changed : List (String × Node)} (unique : Unique Node.Distinct entries)
    (done : assign? assigned path entries = some changed) : Unique Node.Distinct changed := by
  fun_induction assign? assigned path entries generalizing changed with
  | case1 => contradiction
  | case2 key entries free =>
    obtain rfl := Option.some.inj done
    exact unique_put unique key (.value distinct)
  | case3 => contradiction
  | case4 key next path entries free ih =>
    obtain ⟨inner, made, rfl⟩ := Option.map_eq_some_iff.mp done
    exact unique_put unique key (distinct_table_iff.mpr (ih .nil made))
  | case5 => contradiction
  | case6 key next path entries origin inner found open_ ih =>
    obtain ⟨grown, made, rfl⟩ := Option.map_eq_some_iff.mp done
    exact unique_put unique key
      (distinct_table_iff.mpr (ih (distinct_table_iff.mp (unique.found found)) made))
  | case7 => contradiction
  | case8 key next path entries earlier inner found longer ih =>
    obtain ⟨grown, made, rfl⟩ := Option.map_eq_some_iff.mp done
    exact unique_put unique key .tables
  | case9 => contradiction

/-- A change at the end of a path keeps keys apart if the change does. -/
theorem unique_of_atPath? {change : List (String × Node) → Option (List (String × Node))}
    (keeps : ∀ entries changed, Unique Node.Distinct entries → change entries = some changed →
      Unique Node.Distinct changed) {path : List String} {entries changed : List (String × Node)}
    (unique : Unique Node.Distinct entries) (done : atPath? change path entries = some changed) :
    Unique Node.Distinct changed := by
  fun_induction atPath? change path entries generalizing changed with
  | case1 entries => exact keeps entries changed unique done
  | case2 key path entries free ih =>
    obtain ⟨inner, made, rfl⟩ := Option.map_eq_some_iff.mp done
    exact unique_put unique key (distinct_table_iff.mpr (ih .nil made))
  | case3 key path entries origin inner found ih =>
    obtain ⟨grown, made, rfl⟩ := Option.map_eq_some_iff.mp done
    exact unique_put unique key
      (distinct_table_iff.mpr (ih (distinct_table_iff.mp (unique.found found)) made))
  | case4 key path entries earlier inner found ih =>
    obtain ⟨grown, made, rfl⟩ := Option.map_eq_some_iff.mp done
    exact unique_put unique key .tables
  | case5 => contradiction

/-- Opening a table keeps keys distinct. -/
theorem unique_of_open? {key : String} (entries changed : List (String × Node))
    (unique : Unique Node.Distinct entries) (done : open? key entries = some changed) :
    Unique Node.Distinct changed := by
  rw [open?] at done
  split at done
  · obtain rfl := Option.some.inj done
    exact unique_put unique key (distinct_table_iff.mpr .nil)
  · next inner found =>
    obtain rfl := Option.some.inj done
    exact unique_put unique key
      (distinct_table_iff.mpr (distinct_table_iff.mp (unique.found found)))
  · contradiction

/-- Extending an array of tables keeps keys distinct. -/
theorem unique_of_extend? {key : String} (entries changed : List (String × Node))
    (unique : Unique Node.Distinct entries) (done : extend? key entries = some changed) :
    Unique Node.Distinct changed := by
  rw [extend?] at done
  split at done
  · obtain rfl := Option.some.inj done
    exact unique_put unique key .tables
  · obtain rfl := Option.some.inj done
    exact unique_put unique key .tables
  · contradiction

end Node

/-! ## Documents -/

section Members

variable {value? : List Char → Option (Value × List Char)}
  (reads : ∀ text value rest, value? text = some (value, rest) → value.Distinct)

include reads

/-- An assignment gives a value with distinct keys. -/
theorem distinct_of_assignment? {text rest : List Char} {member : List String × Value}
    (read : assignment? value? text = some (member, rest)) : member.2.Distinct := by
  rw [assignment?] at read
  split at read
  · obtain ⟨⟨value, left⟩, found, same⟩ := Option.map_eq_some_iff.mp read
    obtain ⟨rfl, _⟩ := Prod.mk.inj same
    exact reads _ _ _ found
  · contradiction

/-- The members of an inline table have distinct keys inside. -/
theorem distinct_of_members? {fuel : Nat} {text rest : List Char}
    {members : List (List String × Value)}
    (read : members? value? fuel text = some (members, rest)) :
    ∀ member ∈ members, member.2.Distinct := by
  induction fuel generalizing text members with
  | zero => contradiction
  | succ fuel ih =>
    rw [members?] at read
    split at read
    · contradiction
    · next member behind assigned =>
      have first := distinct_of_assignment? reads assigned
      split at read
      · obtain ⟨⟨others, left⟩, found, same⟩ := Option.map_eq_some_iff.mp read
        obtain ⟨rfl, rfl⟩ := Prod.mk.inj same
        exact List.forall_mem_cons.mpr ⟨first, ih found⟩
      · obtain ⟨rfl, rfl⟩ := Prod.mk.inj (Option.some.inj read)
        simpa using first
      · contradiction

end Members

/-- An inline table that is made has distinct keys. -/
theorem distinct_of_tableOf? {members : List (List String × Value)}
    (all : ∀ member ∈ members, member.2.Distinct) {table : Value}
    (made : tableOf? members = some table) : table.Distinct := by
  obtain ⟨entries, assigned, rfl⟩ := Option.map_eq_some_iff.mp made
  have unique : Unique Node.Distinct entries :=
    of_foldlM (fun _ _ _ unique distinct done => Node.unique_of_assign? distinct unique done) all
      .nil assigned
  exact Node.distinct_freezeEntries unique

/-- A value that is made of something and is no table has no keys. -/
theorem distinct_of_map {Content : Type} (make : Content → Value)
    (other : ∀ content entries, make content ≠ .table entries)
    {found : Option (Content × List Char)} {value : Value} {rest : List Char}
    (read : (found.map fun (content, rest) => (make content, rest)) = some (value, rest)) :
    value.Distinct := by
  obtain ⟨⟨content, left⟩, _, same⟩ := Option.map_eq_some_iff.mp read
  obtain ⟨rfl, _⟩ := Prod.mk.inj same
  exact .plain (other content)

/-- A value that is no table has no keys. -/
theorem distinct_of_scalar {text rest : List Char} {value : Value}
    (read : scalar text = some (value, rest)) : value.Distinct := by
  apply Value.Distinct.plain
  rintro entries rfl
  rw [scalar] at read
  split at read
  · simp at read
  · dsimp only at read
    split at read
    · simp at read
    · split at read
      · simp at read
      · split at read <;> simp at read

/-- Each key of a table that is read stands once. -/
theorem distinct_of_value? {depth : Nat} {text rest : List Char} {value : Value}
    (read : value? depth text = some (value, rest)) : value.Distinct := by
  induction depth generalizing text rest value with
  | zero => contradiction
  | succ depth ih =>
    unfold value? at read
    split at read
    · exact distinct_of_map .array (by simp) read
    · split at read
      · obtain ⟨rfl, _⟩ := Prod.mk.inj (Option.some.inj read)
        exact Value.distinct_table_iff.mpr .nil
      · split at read
        · contradiction
        · next members behind found =>
          obtain ⟨table, made, same⟩ := Option.map_eq_some_iff.mp read
          obtain ⟨rfl, _⟩ := Prod.mk.inj same
          exact distinct_of_tableOf? (distinct_of_members? (fun _ _ _ => ih) found) made
    · exact distinct_of_map (fun content => .text (.ofList content)) (by simp) read
    · exact distinct_of_map (fun content => .text (.ofList content)) (by simp) read
    · exact distinct_of_scalar read

/-- A line that assigns a value assigns one whose keys stand once. -/
def Statement.Distinct : Statement → Prop
  | .assign _ value => value.Distinct
  | .header _ | .item _ => True

/-- A statement holds values with distinct keys. -/
theorem distinct_of_statement? {text rest : List Char} {statement : Statement}
    (read : statement? text = some (statement, rest)) : statement.Distinct := by
  unfold statement? at read
  dsimp only at read
  split at read
  · contradiction
  · next found =>
    obtain ⟨left, _, same⟩ := Option.map_eq_some_iff.mp read
    obtain ⟨rfl, _⟩ := Prod.mk.inj same
    split at found
    · split at found
      · obtain ⟨rfl, _⟩ := Prod.mk.inj (Option.some.inj found)
        trivial
      · contradiction
    · split at found
      · obtain ⟨rfl, _⟩ := Prod.mk.inj (Option.some.inj found)
        trivial
      · contradiction
    · obtain ⟨⟨⟨path, value⟩, behind⟩, assigned, same⟩ := Option.map_eq_some_iff.mp found
      obtain ⟨rfl, _⟩ := Prod.mk.inj same
      exact distinct_of_assignment? (fun _ _ _ => distinct_of_value?) assigned

/-- The statements of a document hold values with distinct keys. -/
theorem distinct_of_statements? {fuel : Nat} {text : List Char} {statements : List Statement}
    (read : statements? fuel text = some statements) :
    ∀ statement ∈ statements, statement.Distinct := by
  induction fuel generalizing text statements with
  | zero => contradiction
  | succ fuel ih =>
    rw [statements?] at read
    split at read
    · contradiction
    · simp_all
    · split at read
      · contradiction
      · next statement rest found =>
        obtain ⟨others, later, rfl⟩ := Option.map_eq_some_iff.mp read
        exact List.forall_mem_cons.mpr ⟨distinct_of_statement? found, ih later⟩

/-- A line keeps the keys of a draft apart. -/
theorem Draft.unique_of_add? {draft next : Draft} {statement : Statement}
    (unique : Unique Node.Distinct draft.entries) (distinct : statement.Distinct)
    (added : draft.add? statement = some next) : Unique Node.Distinct next.entries := by
  cases statement with
  | assign path value =>
    obtain ⟨entries, done, rfl⟩ := Option.map_eq_some_iff.mp added
    exact Node.unique_of_atPath?
      (fun _ _ unique done => Node.unique_of_assign? distinct unique done) unique done
  | header path =>
    rw [Draft.add?] at added
    split at added
    · contradiction
    · obtain ⟨entries, done, rfl⟩ := Option.map_eq_some_iff.mp added
      exact Node.unique_of_atPath? Node.unique_of_open? unique done
  | item path =>
    rw [Draft.add?] at added
    split at added
    · contradiction
    · obtain ⟨entries, done, rfl⟩ := Option.map_eq_some_iff.mp added
      exact Node.unique_of_atPath? Node.unique_of_extend? unique done

/-- Each key of a document stands once, and so it does in the tables inside. -/
theorem distinct_of_parse? {text : List Char} {entries : List (String × Value)}
    (read : parse? text = some entries) : (Value.table entries).Distinct := by
  rw [parse?] at read
  split at read
  · contradiction
  · next statements found =>
    obtain ⟨draft, added, rfl⟩ := Option.map_eq_some_iff.mp read
    have unique : Unique Node.Distinct draft.entries :=
      of_foldlM (fun _ _ _ unique distinct done => Draft.unique_of_add? unique distinct done)
        (distinct_of_statements? found) .nil added
    exact Node.distinct_freezeEntries unique

end SourceOutline.Toml

namespace SourceOutline.Environment

open Toml

/-! ## Environment variables -/

/-- The entries of a table in a variable have distinct keys inside. -/
theorem distinct_of_entries? {value? : List Char → Option (Value × List Char)}
    (reads : ∀ text value rest, value? text = some (value, rest) → value.Distinct) {fuel : Nat}
    {text rest : List Char} {entries : List (String × Value)}
    (read : entries? value? fuel text = some (entries, rest)) :
    ∀ entry ∈ entries, entry.2.Distinct := by
  induction fuel generalizing text entries with
  | zero => contradiction
  | succ fuel ih =>
    unfold entries? at read
    split at read
    · obtain ⟨rfl, _⟩ := Prod.mk.inj (Option.some.inj read)
      simp
    · split at read
      · contradiction
      · split at read
        · split at read
          · next value behind found =>
            obtain ⟨⟨others, left⟩, later, same⟩ := Option.map_eq_some_iff.mp read
            obtain ⟨rfl, rfl⟩ := Prod.mk.inj same
            exact List.forall_mem_cons.mpr ⟨reads _ _ _ found, ih later⟩
          · next value behind found =>
            obtain ⟨rfl, _⟩ := Prod.mk.inj (Option.some.inj read)
            simpa using reads _ _ _ found
          · contradiction
        · contradiction

/-- A table made of entries has distinct keys, the last entry of a key its value. -/
theorem distinct_tableOf {entries : List (String × Value)}
    (all : ∀ entry ∈ entries, entry.2.Distinct) : (tableOf entries).Distinct := by
  rw [tableOf, Value.distinct_table_iff]
  have start : Unique Value.Distinct [] := .nil
  generalize ([] : List (String × Value)) = table at start
  induction entries generalizing table with
  | nil => exact start
  | cons entry entries ih =>
    obtain ⟨first, others⟩ := List.forall_mem_cons.mp all
    have next := start.put entry.1 first
    rw [← Value.put_eq] at next
    exact ih others _ next

/-- A word is a value without keys. -/
theorem distinct_wordValue (word : List Char) : (wordValue word).Distinct := by
  apply Value.Distinct.plain
  intro entries same
  rw [wordValue] at same
  split at same <;> contradiction

/-- A value read from a variable has distinct keys, at every depth. -/
theorem distinct_of_value? {depth : Nat} {text rest : List Char} {value : Value}
    (read : value? depth text = some (value, rest)) : value.Distinct := by
  induction depth generalizing text rest value with
  | zero => contradiction
  | succ depth ih =>
    unfold value? at read
    obtain ⟨⟨found, behind⟩, inner, same⟩ := Option.map_eq_some_iff.mp read
    obtain ⟨rfl, _⟩ := Prod.mk.inj same
    split at inner
    · obtain ⟨rfl, _⟩ := Prod.mk.inj (Option.some.inj inner)
      exact .plain (by simp)
    · obtain ⟨rfl, _⟩ := Prod.mk.inj (Option.some.inj inner)
      exact .plain (by simp)
    · obtain ⟨⟨entries, left⟩, made, pair⟩ := Option.map_eq_some_iff.mp inner
      obtain ⟨rfl, _⟩ := Prod.mk.inj pair
      exact distinct_tableOf (distinct_of_entries? (fun _ _ _ => ih) made)
    · exact distinct_of_map .array (by simp) inner
    · exact distinct_of_map (fun content => .text (.ofList content)) (by simp) inner
    · obtain ⟨rfl, _⟩ := Prod.mk.inj (Option.some.inj inner)
      exact .plain (by simp)
    · contradiction
    · obtain ⟨rfl, _⟩ := Prod.mk.inj (Option.some.inj inner)
      exact distinct_wordValue _

/-- The value of a variable has distinct keys. -/
theorem distinct_value (text : String) : (value text).Distinct := by
  rw [value]
  split
  · next found => exact distinct_of_value? found
  · exact .plain (by simp)

/-- A value put at a path has distinct keys if it had. -/
theorem distinct_nest (path : List String) {value : Value} (distinct : value.Distinct) :
    (nest path value).Distinct := by
  induction path with
  | nil => exact distinct
  | cons key path ih => exact Value.distinct_table_iff.mpr (.singleton key ih)

/-- Each key of a layer of the environment stands once. -/
theorem distinct_of_mem_layers {environment : List (String × String)} {layer : Value}
    (listed : layer ∈ layers environment) : layer.Distinct := by
  obtain ⟨⟨name, text⟩, _, made⟩ := List.mem_filterMap.mp listed
  obtain ⟨path, _, rfl⟩ := Option.map_eq_some_iff.mp made
  exact distinct_nest path (distinct_value text)

end SourceOutline.Environment

namespace SourceOutline.Settings

/-- Each key of the layer of a file stands once. -/
theorem FileContent.distinct_of_layer? {content : FileContent} {layer : Toml.Value}
    (read : content.layer? = some layer) : layer.Distinct := by
  cases content with
  | text content =>
    obtain ⟨entries, parsed, rfl⟩ := Option.map_eq_some_iff.mp read
    exact Toml.distinct_of_parse? parsed
  | noFile =>
    obtain rfl := Option.some.inj read
    exact Toml.Value.distinct_table_iff.mpr .nil
  | noText => contradiction

end SourceOutline.Settings
