/-
# `RmqCxx.ArgumentTables` — what the C functions find in argument tables

An argument table is made of pointers.  Whether a reader finds what the caller
wrote depends on what is alive at the moment of the call: strings, containers and
tables that are arguments are, entries own their keys, and `Table` owns the entry
array; the temporary string of the `const char*` constructor is not.

`decode_evalValue_iff` says which arguments survive, by induction on the argument,
in any storage that came after its evaluation; a step of the induction needs that
later evaluations leave earlier blocks as they were (`extends_evalValue`).
`tables_intact_iff_survive` is the same for the table that each operation of
`Queue` and `Exchange` hands to its C function.
-/
import RmqCxx.Operation

namespace RmqCxx

open Cpp Cpp.Storage

/-! ## Which arguments survive -/

mutual
/-- The argument points to nothing that died, and fits: no `const char*` with
characters in it, a text kind for texts, and arrays of at most `INT_MAX`
elements. -/
def CppValue.Survives : CppValue → Prop
  | .string _ kind => kind = .utf8 ∨ kind = .bytes
  | .cstring v kind => (kind = .utf8 ∨ kind = .bytes) ∧ v.takeWhile (· ≠ 0) = []
  | .array vs => vs.length < 2 ^ 31 ∧ ValuesSurvive vs
  | .table es => EntriesSurvive es
  | _ => True
def ValuesSurvive : List CppValue → Prop
  | [] => True
  | v :: vs => v.Survives ∧ ValuesSurvive vs
def EntriesSurvive : List (ByteString × CppValue) → Prop
  | [] => True
  | (_, v) :: es => v.Survives ∧ EntriesSurvive es
end

mutual
/-- The levels of nesting. -/
def CppValue.depth : CppValue → Nat
  | .array vs => valuesDepth vs + 1
  | .table es => entriesDepth es + 1
  | _ => 1
def valuesDepth : List CppValue → Nat
  | [] => 0
  | v :: vs => max v.depth (valuesDepth vs)
def entriesDepth : List (ByteString × CppValue) → Nat
  | [] => 0
  | (_, v) :: es => max v.depth (entriesDepth es)
end

/-! ## Evaluation and storage -/

section Evaluation

variable (m : Memory)

theorem evalValue_array (vs : List CppValue) :
    evalValue (.array vs) m =
      (.ofArray ⟨(evalValues vs m).1.length, (evalValues vs m).2.size⟩,
        ((evalValues vs m).2.alloc (.values ((evalValues vs m).1.map FieldValue.cache_))).2) := by
  rw [evalValue]
  rfl

theorem evalValue_table (es : List (ByteString × CppValue)) :
    evalValue (.table es) m =
      (.ofTable (Table.make (evalEntries es m).1 (evalEntries es m).2).1,
        ((evalEntries es m).2.alloc
          (.entries ((evalEntries es m).1.map TableEntry.toRaw))).2) := by
  rw [evalValue]
  rfl

theorem evalValues_cons (v : CppValue) (vs : List CppValue) :
    evalValues (v :: vs) m =
      ((evalValue v m).1 :: (evalValues vs (evalValue v m).2).1,
        (evalValues vs (evalValue v m).2).2) := by
  rw [evalValues]

/-- An entry: the value, and then the string that the entry owns its key in. -/
theorem evalEntries_cons (key : ByteString) (v : CppValue) (es : List (ByteString × CppValue)) :
    evalEntries ((key, v) :: es) m =
      let m' := ((evalValue v m).2.alloc (.chars key)).2
      (⟨⟨key.length, (evalValue v m).2.size⟩, (evalValue v m).1⟩ :: (evalEntries es m').1,
        (evalEntries es m').2) := by
  rw [evalEntries]
  rfl

mutual
theorem extends_evalValue : ∀ (v : CppValue) (m : Memory), Extends m (evalValue v m).2
  | .boolean _, m | .i8 _, m | .u8 _, m | .i16 _, m | .u16 _, m | .i32 _, m | .u32 _, m
  | .i64 _, m | .u64 _, m | .f32 _, m | .f64 _, m | .decimal _, m => by
      simpa only [evalValue] using Extends.refl m
  | .string _ _, m | .container _, m => by
      rw [evalValue]
      exact extends_alloc m _
  | .cstring _ _, m => by
      rw [evalValue]
      exact extends_alloc_free m _
  | .array vs, m => by
      rw [evalValue_array]
      exact (extends_evalValues vs m).trans (extends_alloc _ _)
  | .table es, m => by
      rw [evalValue_table]
      exact (extends_evalEntries es m).trans (extends_alloc _ _)
theorem extends_evalValues : ∀ (vs : List CppValue) (m : Memory), Extends m (evalValues vs m).2
  | [], m => by simpa only [evalValues] using Extends.refl m
  | v :: vs, m => by
      rw [evalValues_cons]
      exact (extends_evalValue v m).trans (extends_evalValues vs _)
theorem extends_evalEntries :
    ∀ (es : List (ByteString × CppValue)) (m : Memory), Extends m (evalEntries es m).2
  | [], m => by simpa only [evalEntries] using Extends.refl m
  | (_, v) :: es, m => by
      rw [evalEntries_cons]
      exact ((extends_evalValue v m).trans (extends_alloc _ _)).trans (extends_evalEntries es _)
end

mutual
/-- Every level of nesting has a block of its own. -/
theorem depth_evalValue :
    ∀ (v : CppValue) (m : Memory), m.size + v.depth ≤ (evalValue v m).2.size + 1
  | .boolean _, m | .i8 _, m | .u8 _, m | .i16 _, m | .u16 _, m | .i32 _, m | .u32 _, m
  | .i64 _, m | .u64 _, m | .f32 _, m | .f64 _, m | .decimal _, m
  | .string _ _, m | .cstring _ _, m | .container _, m =>
      Nat.add_le_add_right (extends_evalValue _ m).1 1
  | .array vs, m => by
      have h := depth_evalValues vs m
      rw [evalValue_array, size_alloc, CppValue.depth]
      omega
  | .table es, m => by
      have h := depth_evalEntries es m
      rw [evalValue_table, size_alloc, CppValue.depth]
      omega
theorem depth_evalValues :
    ∀ (vs : List CppValue) (m : Memory), m.size + valuesDepth vs ≤ (evalValues vs m).2.size + 1
  | [], m => by
      rw [evalValues]
      exact Nat.le_succ _
  | v :: vs, m => by
      have hv := depth_evalValue v m
      have hvs := depth_evalValues vs (evalValue v m).2
      have hle := (extends_evalValue v m).1
      have hle' := (extends_evalValues vs (evalValue v m).2).1
      rw [evalValues_cons, valuesDepth]
      dsimp only
      omega
theorem depth_evalEntries :
    ∀ (es : List (ByteString × CppValue)) (m : Memory),
      m.size + entriesDepth es ≤ (evalEntries es m).2.size + 1
  | [], m => by
      rw [evalEntries]
      exact Nat.le_succ _
  | (key, v) :: es, m => by
      have hv := depth_evalValue v m
      have hes := depth_evalEntries es ((evalValue v m).2.alloc (.chars key)).2
      have hle := (extends_evalValue v m).1
      have hle' := (extends_evalEntries es ((evalValue v m).2.alloc (.chars key)).2).1
      rw [size_alloc] at hes hle'
      rw [evalEntries_cons, entriesDepth]
      dsimp only
      omega
end

end Evaluation

/-! ## Reading -/

section Reading

variable {X Y : Type} {m t : Memory} {as : Block → Option (List X)} {n : Nat} {a : Addr}

/-- The block that was created last, in any later storage. -/
theorem read_of_alloc {b : Block} (ht : Extends (m.alloc b).2 t) : t.read m.size = some b := by
  rw [ht.2 _ (by rw [size_alloc]; exact Nat.lt_succ_self _), read_alloc]

theorem read_of_alloc_free {b : Block} (ht : Extends ((m.alloc b).2.free m.size) t) :
    t.read m.size = none := by
  rw [ht.2 _ (by rw [size_free, size_alloc]; exact Nat.lt_succ_self _), read_free]

theorem readSeq_of_read {b : Block} {xs : List X} (hread : m.read a = some b)
    (hb : as b = some xs) (hn : n ≤ xs.length) : readSeq m as n a = some (xs.take n) := by
  unfold readSeq
  split
  · next h => rw [h, List.take_zero]
  · rw [hread, Option.bind_some, hb]
    exact if_pos hn

/-- Nothing is read through a pointer into a dead block, unless nothing is asked
for. -/
theorem readSeq_of_dead {xs : List X} (hread : m.read a = none) :
    readSeq m as xs.length a = some xs ↔ xs = [] := by
  unfold readSeq
  split
  · next h =>
      have hnil := List.length_eq_zero_iff.mp h
      exact iff_of_true (by rw [hnil]) hnil
  · next h =>
      rw [hread]
      exact iff_of_false (fun h => nomatch h) (fun hxs => h (hxs ▸ rfl))

theorem mapM_cons_eq_some_iff {f : X → Option Y} {x : X} {xs : List X} {y : Y} {ys : List Y} :
    (x :: xs).mapM f = some (y :: ys) ↔ f x = some y ∧ xs.mapM f = some ys := by
  rw [List.mapM_cons]
  cases f x with
  | none => exact iff_of_false (fun h => nomatch h) (fun h => nomatch h.1)
  | some y' =>
      cases xs.mapM f with
      | none => exact iff_of_false (fun h => nomatch h) (fun h => nomatch h.2)
      | some ys' => simp

theorem length_of_mapM {f : X → Option Y} :
    ∀ {xs : List X} {ys : List Y}, xs.mapM f = some ys → xs.length = ys.length
  | [], ys, h => by
      cases h
      rfl
  | x :: xs, ys, h => by
      cases ys with
      | nil =>
          rw [List.mapM_cons, Option.bind_eq_bind, Option.bind_eq_some_iff] at h
          obtain ⟨y, -, h⟩ := h
          rw [Option.bind_eq_bind, Option.bind_eq_some_iff] at h
          obtain ⟨ys, -, h⟩ := h
          cases h
      | cons y ys =>
          exact congrArg Nat.succ (length_of_mapM (mapM_cons_eq_some_iff.mp h).2)

theorem map_eq_some_iff_of_injective {g : X → Y} (hg : ∀ x x', g x = g x' → x = x')
    {o : Option X} {x : X} : o.map g = some (g x) ↔ o = some x := by
  rw [Option.map_eq_some_iff]
  constructor
  · rintro ⟨x', rfl, h⟩
    rw [hg _ _ h]
  · intro h
    exact ⟨x, h, rfl⟩

theorem decodeEntry_iff {value : RawFieldValue → Option AmqpValue} {e : RawTableEntry}
    {key : ByteString} {x : AmqpValue} (hkey : readBytes m e.key = some key) :
    decodeEntry m value e = some (key, x) ↔ value e.value = some x := by
  rw [decodeEntry, hkey]
  cases value e.value with
  | none => exact iff_of_false (fun h => nomatch h) (fun h => nomatch h)
  | some _ => simp

/-- The entry array of a table, in any storage after the table was made. -/
theorem readEntries_of_make {args : List TableEntry} (ht : Extends (Table.make args m).2 t) :
    readSeq t Block.asEntries (Table.make args m).1.value_.numEntries.toNat
        (Table.make args m).1.value_.entries = some (args.map TableEntry.toRaw) := by
  have hlen : (args.map TableEntry.toRaw).length = args.length := List.length_map _
  show readSeq t _ args.length m.size = _
  rw [← hlen, readSeq_of_read (read_of_alloc ht) rfl (Nat.le_refl _), List.take_length]

theorem decode_array {fuel : Nat} {raw : RawTable} {vs : List RawFieldValue}
    (hread : readSeq m Block.asValues raw.numEntries.toNat raw.entries = some vs) :
    decodeValue m (fuel + 1) ⟨.array, .array raw⟩ = (vs.mapM (decodeValue m fuel)).map .array := by
  show Option.map _ (Option.bind (readSeq m _ _ _) _) = _
  rw [hread, Option.bind_some]

theorem decode_table {fuel : Nat} {raw : RawTable} {es : List RawTableEntry}
    (hread : readSeq m Block.asEntries raw.numEntries.toNat raw.entries = some es) :
    decodeValue m (fuel + 1) ⟨.table, .table raw⟩ =
      (es.mapM (decodeEntry m (decodeValue m fuel))).map .table := by
  show Option.map _ (Option.bind (readSeq m _ _ _) _) = _
  rw [hread, Option.bind_some]

/-- A text is read back if it was given a text kind and its bytes are found. -/
theorem decode_text_iff {fuel : Nat} {kind : FieldKind} {b : RawBytes} {v : ByteString} :
    decodeValue m (fuel + 1) ⟨kind, .bytes b⟩ = some (.bytes kind v) ↔
      (kind = .utf8 ∨ kind = .bytes) ∧ readBytes m b = some v := by
  cases kind with
  | utf8 => simp [decodeValue]
  | bytes => simp [decodeValue]
  | _ => simp [decodeValue]

/-- Truncation to a signed type of `2 * half` values keeps exactly the small lengths,
and never makes more of one. -/
theorem bmod_toNat (n half : Nat) (hpos : 0 < half) :
    ((Int.bmod n (2 * half)).toNat = n ↔ n < half) ∧ (Int.bmod n (2 * half)).toNat ≤ n := by
  have hmod : (n : Int) % ((2 * half : Nat) : Int) = ((n % (2 * half) : Nat) : Int) :=
    (Int.natCast_emod n (2 * half)).symm
  have hlt : n % (2 * half) < 2 * half := Nat.mod_lt _ (by omega)
  have hle : n % (2 * half) ≤ n := Nat.mod_le _ _
  have hsmall : n < 2 * half → n % (2 * half) = n := Nat.mod_eq_of_lt
  rw [Int.bmod_def, hmod]
  split <;> omega

theorem toInt_toNat_eq_iff (n : Nat) : (toInt n).toNat = n ↔ n < 2 ^ 31 :=
  (bmod_toNat n (2 ^ 31) (Nat.two_pow_pos 31)).1

theorem toInt_toNat_le (n : Nat) : (toInt n).toNat ≤ n :=
  (bmod_toNat n (2 ^ 31) (Nat.two_pow_pos 31)).2

end Reading

/-! ## Which arguments are found -/

section Decoding

-- lengths of arrays are compared, never computed
attribute [local irreducible] toInt

variable {t : Memory}

theorem length_evalValues (vs : List CppValue) (m : Memory) :
    (evalValues vs m).1.length = vs.length := by
  induction vs generalizing m with
  | nil =>
      rw [evalValues]
      rfl
  | cons v vs ih =>
      rw [evalValues_cons]
      exact congrArg Nat.succ (ih _)

theorem length_denoteValues (vs : List CppValue) : (denoteValues vs).length = vs.length := by
  induction vs with
  | nil => rfl
  | cons v vs ih => exact congrArg Nat.succ ih

mutual
/-- In any storage after its evaluation, an argument is found as it was written if
and only if it survives. -/
theorem decode_evalValue_iff : ∀ (v : CppValue) (m : Memory) {fuel : Nat},
    Extends (evalValue v m).2 t → v.depth ≤ fuel →
      (decodeValue t fuel (evalValue v m).1.cache_ = some v.denote ↔ v.Survives)
  | .boolean _, m, _, _, hf | .i8 _, m, _, _, hf | .u8 _, m, _, _, hf | .i16 _, m, _, _, hf
  | .u16 _, m, _, _, hf | .i32 _, m, _, _, hf | .u32 _, m, _, _, hf | .i64 _, m, _, _, hf
  | .u64 _, m, _, _, hf | .f32 _, m, _, _, hf | .f64 _, m, _, _, hf | .decimal _, m, _, _, hf => by
      obtain ⟨fuel, rfl⟩ := Nat.exists_eq_add_of_le' hf
      exact iff_of_true (by rw [evalValue]; rfl) trivial
  | .string v kind, m, fuel, ht, hf => by
      obtain ⟨fuel, rfl⟩ := Nat.exists_eq_add_of_le' hf
      rw [evalValue] at ht ⊢
      have hread : readBytes t ⟨v.length, m.size⟩ = some v := by
        rw [readBytes, readSeq_of_read (read_of_alloc ht) rfl (Nat.le_refl _), List.take_length]
      exact decode_text_iff.trans (and_iff_left hread)
  | .cstring v kind, m, fuel, ht, hf => by
      obtain ⟨fuel, rfl⟩ := Nat.exists_eq_add_of_le' hf
      rw [evalValue] at ht ⊢
      exact decode_text_iff.trans (and_congr_right fun _ => readSeq_of_dead (read_of_alloc_free ht))
  | .container v, m, fuel, ht, hf => by
      obtain ⟨fuel, rfl⟩ := Nat.exists_eq_add_of_le' hf
      rw [evalValue] at ht ⊢
      have hread : readBytes t ⟨v.length, m.size⟩ = some v := by
        rw [readBytes, readSeq_of_read (read_of_alloc ht) rfl (Nat.le_refl _), List.take_length]
      exact iff_of_true (decode_text_iff.mpr ⟨.inr rfl, hread⟩) trivial
  | .array vs, m, fuel, ht, hf => by
      obtain ⟨fuel, rfl⟩ := Nat.exists_eq_add_of_le' (Nat.le_trans (Nat.le_add_left 1 _) hf)
      rw [evalValue_array] at ht ⊢
      have hvs := mapM_evalValues_iff vs m ((extends_alloc _ _).trans ht)
        (Nat.le_of_succ_le_succ hf)
      have hlen := length_evalValues vs m
      have hread : readSeq t Block.asValues (toInt vs.length).toNat (evalValues vs m).2.size =
          some (((evalValues vs m).1.map FieldValue.cache_).take (toInt vs.length).toNat) :=
        readSeq_of_read (read_of_alloc ht) rfl
          (by rw [List.length_map, hlen]; exact toInt_toNat_le _)
      dsimp only [FieldValue.ofArray]
      rw [hlen, decode_array hread]
      refine (map_eq_some_iff_of_injective fun _ _ h => AmqpValue.array.inj h).trans ?_
      refine Iff.trans ?_ (and_congr (toInt_toNat_eq_iff vs.length) hvs)
      constructor
      · intro h
        -- a prefix of another length reads back as something else
        have hcut := length_of_mapM h
        rw [length_denoteValues, List.length_take, List.length_map, hlen] at hcut
        have hle := toInt_toNat_le vs.length
        have hall : (toInt vs.length).toNat = vs.length := by omega
        rw [hall, ← hlen, ← List.length_map (f := FieldValue.cache_), List.take_length] at h
        exact ⟨hall, h⟩
      · rintro ⟨hall, h⟩
        rw [hall, ← hlen, ← List.length_map (f := FieldValue.cache_), List.take_length]
        exact h
  | .table es, m, fuel, ht, hf => by
      obtain ⟨fuel, rfl⟩ := Nat.exists_eq_add_of_le' (Nat.le_trans (Nat.le_add_left 1 _) hf)
      rw [evalValue_table] at ht ⊢
      have hes := mapM_evalEntries_iff es m ((extends_alloc _ _).trans ht)
        (Nat.le_of_succ_le_succ hf)
      dsimp only [FieldValue.ofTable, FieldValue.ofAmqpTable]
      rw [decode_table (readEntries_of_make ht)]
      exact (map_eq_some_iff_of_injective fun _ _ h => AmqpValue.table.inj h).trans hes
theorem mapM_evalValues_iff : ∀ (vs : List CppValue) (m : Memory) {fuel : Nat},
    Extends (evalValues vs m).2 t → valuesDepth vs ≤ fuel →
      (((evalValues vs m).1.map FieldValue.cache_).mapM (decodeValue t fuel) =
        some (denoteValues vs) ↔ ValuesSurvive vs)
  | [], m, _, _, _ => iff_of_true (by rw [evalValues]; rfl) trivial
  | v :: vs, m, fuel, ht, hf => by
      rw [evalValues_cons] at ht ⊢
      have hv := decode_evalValue_iff v m ((extends_evalValues vs _).trans ht)
        (Nat.le_trans (Nat.le_max_left _ _) hf)
      have hvs := mapM_evalValues_iff vs (evalValue v m).2 ht
        (Nat.le_trans (Nat.le_max_right _ _) hf)
      exact mapM_cons_eq_some_iff.trans (and_congr hv hvs)
theorem mapM_evalEntries_iff : ∀ (es : List (ByteString × CppValue)) (m : Memory) {fuel : Nat},
    Extends (evalEntries es m).2 t → entriesDepth es ≤ fuel →
      (((evalEntries es m).1.map TableEntry.toRaw).mapM (decodeEntry t (decodeValue t fuel)) =
        some (denoteEntries es) ↔ EntriesSurvive es)
  | [], m, _, _, _ => iff_of_true (by rw [evalEntries]; rfl) trivial
  | (key, v) :: es, m, fuel, ht, hf => by
      rw [evalEntries_cons] at ht ⊢
      have hkey := (extends_evalEntries es _).trans ht
      have hv := decode_evalValue_iff v m ((extends_alloc _ _).trans hkey)
        (Nat.le_trans (Nat.le_max_left _ _) hf)
      have hes := mapM_evalEntries_iff es ((evalValue v m).2.alloc (.chars key)).2 ht
        (Nat.le_trans (Nat.le_max_right _ _) hf)
      have hread : readBytes t ⟨key.length, (evalValue v m).2.size⟩ = some key := by
        rw [readBytes, readSeq_of_read (read_of_alloc hkey) rfl (Nat.le_refl _),
          List.take_length]
      refine mapM_cons_eq_some_iff.trans (and_congr ?_ hes)
      exact (decodeEntry_iff hread).trans hv
end

end Decoding

/-- A table made of evaluated entries, in any storage that came after them. -/
theorem decodeTable_make_iff (es : List (ByteString × CppValue)) (m : Memory) {t : Memory}
    (ht : Extends (evalEntries es m).2 t) :
    decodeTable (Table.make (evalEntries es m).1 t).2
        (Table.make (evalEntries es m).1 t).1.toRaw = some (denoteEntries es) ↔
      EntriesSurvive es := by
  have hdepth := depth_evalEntries es m
  have hmade : Extends t (Table.make (evalEntries es m).1 t).2 := extends_alloc t _
  have hsize := ht.1
  have hsize' := hmade.1
  rw [decodeTable, show (Table.make (evalEntries es m).1 t).1.toRaw = _ from rfl, Table.toRaw,
    readEntries_of_make (Extends.refl _), Option.bind_some]
  exact mapM_evalEntries_iff es m (ht.trans hmade) (by omega)

/-! ## The tables of a run -/

open Cpp.Code

def Arg.asTable : Arg → Option (Option (List (ByteString × AmqpValue)))
  | .table contents => some contents
  | _ => none

/-- A table that was handed to a C function: to which one, with which handle, and
what is found in it. -/
def Event.tableHanded : Event →
    Option (CFunction × Handle × Option (List (ByteString × AmqpValue)))
  | .call f h args => (args.findSome? Arg.asTable).map (f, h, ·)
  | _ => none

/-- The tables that were handed over, in order. -/
def World.tables (w : World) :
    List (CFunction × Handle × Option (List (ByteString × AmqpValue))) :=
  w.log.filterMap Event.tableHanded

theorem tables_tell {w : World} {e : Event} (he : e.tableHanded = none) :
    (w.tell e).tables = w.tables := by
  simp [World.tables, he]

section Operations

variable [Library]

/-- The call is made with the table among its arguments, and what follows it hands
over nothing. -/
theorem leaves_table {self : Channel} {context : String} {f : CFunction} {args : List Arg}
    {w : World} {c : Handle → ChannelId → Code World Exc OkPtr}
    {contents : Option (List (ByteString × AmqpValue))}
    (hc : (c self.handle self.channel_).run w =
      (.ret (w.okPtr self.handle self.channel_), w.afterSync self.handle f self.channel_ args))
    (hargs : args.findSome? Arg.asTable = some contents) :
    Leaves World.tables (w.tables ++ [(f, self.handle, contents)]) (self.rpcWith context c) w := by
  have hcall : (Event.call f self.handle (.channel self.channel_ :: args)).tableHanded =
      some (f, self.handle, contents) := by
    show (args.findSome? Arg.asTable).map _ = _
    rw [hargs, Option.map_some]
  rw [Leaves, Channel.rpcWith_sync hc]
  simp only [World.tables, World.settled, World.afterSync, World.setConn_log, World.tell_log,
    World.tick_log, List.filterMap_append, List.append_assoc]
  rw [List.filterMap_cons_some hcall]
  rfl

theorem sameTables_load (p : OkPtr) :
    Keeps (Same World.tables) (p.load : Code World Exc (OkMethod Bytes)) :=
  fun _ => tables_tell rfl

theorem sameTables_containerString (b : Bytes) :
    Keeps (Same World.tables) (containerString b : Code World Exc String) := by
  intro w
  obtain ⟨data, mem⟩ := b
  cases mem with
  | pool ref => exact tables_tell rfl
  | own ident => rfl

/-- An operation that takes an argument table, without the table. -/
inductive TableOp where
  | queueDeclare (self : Queue) (passive durable exclusive autoDelete : Bool)
  | queueBind (self : Queue) (exchange routingKey : String)
  | queueUnbind (self : Queue) (exchange routingKey : String)
  | queueConsume (self : Queue) (consumerTag : String) (noLocal noAck exclusive : Bool)
  | exchangeDeclare (self : Exchange) (type : String) (passive durable autoDelete : Bool)
  | exchangeBind (self : Exchange) (src routingKey : String)
  | exchangeUnbind (self : Exchange) (src routingKey : String)

namespace TableOp

def operation (args : List TableEntry) : TableOp → Operation
  | queueDeclare self passive durable exclusive autoDelete =>
      .queue self (.declare passive durable exclusive autoDelete args)
  | queueBind self exchange routingKey => .queue self (.bind exchange routingKey args)
  | queueUnbind self exchange routingKey => .queue self (.unbind exchange routingKey args)
  | queueConsume self consumerTag noLocal noAck exclusive =>
      .queue self (.consume consumerTag noLocal noAck exclusive args)
  | exchangeDeclare self type passive durable autoDelete =>
      .exchange self (.declare type passive durable autoDelete args)
  | exchangeBind self src routingKey => .exchange self (.bind src routingKey args)
  | exchangeUnbind self src routingKey => .exchange self (.unbind src routingKey args)

/-- The C function it calls. -/
def function : TableOp → CFunction
  | queueDeclare .. => .queueDeclare
  | queueBind .. => .queueBind
  | queueUnbind .. => .queueUnbind
  | queueConsume .. => .basicConsume
  | exchangeDeclare .. => .exchangeDeclare
  | exchangeBind .. => .exchangeBind
  | exchangeUnbind .. => .exchangeUnbind

/-- The handle it calls it with. -/
def handle : TableOp → Handle
  | queueDeclare self .. | queueBind self .. | queueUnbind self .. | queueConsume self .. =>
      self.channel_.handle
  | exchangeDeclare self .. | exchangeBind self .. | exchangeUnbind self .. =>
      self.channel_.handle

/-- Each of the operations hands its table to its C function, once, while the table
is alive. -/
theorem leaves_code (op : TableOp) (args : List TableEntry) (w : World) :
    Leaves World.tables
      (w.tables ++ [(op.function, op.handle,
        decodeTable (Table.make args w.mem).2 (Table.make args w.mem).1.toRaw)])
      (op.operation args).code w := by
  have hmem (w : World) (m : Memory) : World.tables { w with mem := m } = w.tables := rfl
  cases op with
  | queueDeclare self passive durable exclusive autoDelete =>
      exact (leaves_withArguments hmem (leaves_table rfl rfl)).map _
  | queueBind self exchange routingKey =>
      exact (leaves_withArguments hmem (leaves_table rfl rfl).drop).map _
  | queueUnbind self exchange routingKey =>
      exact (leaves_withArguments hmem (leaves_table rfl rfl).drop).map _
  | queueConsume self consumerTag noLocal noAck exclusive =>
      exact (leaves_withArguments hmem ((leaves_table rfl rfl).bind fun p =>
        keeps_bind (sameTables_load p) fun ok => sameTables_containerString _)).map _
  | exchangeDeclare self type passive durable autoDelete =>
      exact (leaves_withArguments hmem (leaves_table rfl rfl).noexcept.drop).map _
  | exchangeBind self src routingKey =>
      exact (leaves_withArguments hmem (leaves_table rfl rfl).noexcept.drop).map _
  | exchangeUnbind self src routingKey =>
      exact (leaves_withArguments hmem (leaves_table rfl rfl).noexcept.drop).map _

end TableOp

/-- The one table that the operation hands over reads as the caller wrote it. -/
def TableIntact (op : TableOp) (es : List (ByteString × CppValue)) (args : List TableEntry)
    (w : World) : Prop :=
  (((op.operation args).code.run w).2).tables =
    w.tables ++ [(op.function, op.handle, some (denoteEntries es))]

/-- For every operation and every list of entries, evaluated in any storage `m` and
alive when the operation is called: the C function finds in the table what the
caller wrote if and only if all the arguments survive. -/
theorem tables_intact_iff_survive (op : TableOp) (es : List (ByteString × CppValue)) (m : Memory)
    (w : World) (hlive : Extends (evalEntries es m).2 w.mem) :
    TableIntact op es (evalEntries es m).1 w ↔ EntriesSurvive es := by
  have htables : (((op.operation (evalEntries es m).1).code.run w).2).tables = _ :=
    op.leaves_code (evalEntries es m).1 w
  rw [TableIntact, htables, List.append_cancel_left_eq, List.cons.injEq, Prod.mk.injEq,
    Prod.mk.injEq]
  simp only [true_and, and_true]
  exact decodeTable_make_iff es m hlive

end Operations

/-- The entries ("k", "v"), with the value as a `std::string`. -/
def stringEntry : List (ByteString × CppValue) := [([107], .string [118] .utf8)]

/-- The same with the value as a `const char*`. -/
def cstringEntry : List (ByteString × CppValue) := [([107], .cstring [118] .utf8)]

/-- Before the call, with the arguments evaluated. -/
def evaluated (es : List (ByteString × CppValue)) : World :=
  { World.initial with mem := (evalEntries es .empty).2 }

/-- A binding of queue "q", on channel 1 of the first connection. -/
def aBinding : TableOp :=
  .queueBind ⟨⟨⟨some 1, "Connection(1): "⟩, 1, "Channel(1): ", false⟩, "q", "Queue(q): "⟩ "e" "r"

theorem string_argument_found :
    @TableIntact allSucceed aBinding stringEntry (evalEntries stringEntry .empty).1
      (evaluated stringEntry) :=
  (@tables_intact_iff_survive allSucceed aBinding stringEntry .empty (evaluated stringEntry)
    (Extends.refl _)).mpr ⟨.inl rfl, trivial⟩

/-- The value was written as a `const char*`: the C function finds a pointer into a
string that died. -/
theorem cstring_argument_lost :
    ¬ @TableIntact allSucceed aBinding cstringEntry (evalEntries cstringEntry .empty).1
      (evaluated cstringEntry) := by
  intro h
  have hfound : [none] = [some (denoteEntries cstringEntry)] :=
    congrArg (List.map fun x : CFunction × Handle × Option _ => x.2.2) h
  cases hfound

end RmqCxx
