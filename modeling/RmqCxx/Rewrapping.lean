/-
# `RmqCxx.Rewrapping` — entries made from an `amqp_table_t`

`TableEntry(::amqp_table_entry_t)` wraps an entry of a C table, for instance of one that was
received.  It copies the key and takes the pointers of the value as they are.  A table made
of such entries therefore has the keys that were there when it was made, and the values that
are there when it is read: at once it reads as the table it comes from, and later it does as
long as the values of that one do, whatever became of its keys and its entry array
(`rewrapped_reads`).
-/
import RmqCxx.ArgumentTables

namespace RmqCxx

open Cpp Cpp.Storage

/-! ## The constructors -/

/-- `container<std::string>(bytes)`, of bytes that can be read. -/
def container (bytes : RawBytes) (m : Memory) : Option (Container × Memory) :=
  (readBytes m bytes).map fun cs => Container.make cs m

/-- `FieldValue(::amqp_field_value_t value)`. -/
def FieldValue.ofRaw (value : RawFieldValue) : FieldValue := ⟨value⟩

/-- `TableEntry(::amqp_table_entry_t entry)`. -/
def TableEntry.ofRaw (entry : RawTableEntry) (m : Memory) : Option (TableEntry × Memory) :=
  (container entry.key m).map fun (key_, m) => (⟨key_, .ofRaw entry.value⟩, m)

/-- One `TableEntry` for each entry, first to last. -/
def rewrap : List RawTableEntry → Memory → Option (List TableEntry × Memory)
  | [], m => some ([], m)
  | e :: es, m => do
      let (entry, m) ← TableEntry.ofRaw e m
      let (entries, m) ← rewrap es m
      pure (entry :: entries, m)

/-- A `Table` of what is in a C table. -/
def rewrapTable (raw : RawTable) (m : Memory) : Option (Table × Memory) := do
  let es ← readSeq m Block.asEntries raw.numEntries.toNat raw.entries
  let (entries, m) ← rewrap es m
  pure (Table.make entries m)

/-! ## Reading in later storage -/

section Reading

variable {X Y : Type} {m t : Memory} {as : Block → Option (List X)} {n : Nat} {a : Addr}

theorem readSeq_mono (hext : Extends m t) {xs : List X} (h : readSeq m as n a = some xs) :
    readSeq t as n a = some xs := by
  unfold readSeq at h ⊢
  split
  · next hn => rwa [if_pos hn] at h
  · next hn =>
      rw [if_neg hn] at h
      cases hread : m.read a with
      | none =>
          rw [hread] at h
          cases h
      | some b =>
          rw [hread] at h
          rw [hext.2 a (lt_size_of_read hread), hread]
          exact h

theorem mapM_mono {f g : X → Option Y} {xs : List X}
    (hfg : ∀ x ∈ xs, ∀ y, f x = some y → g x = some y) {ys : List Y}
    (h : xs.mapM f = some ys) : xs.mapM g = some ys := by
  induction xs generalizing ys with
  | nil => exact h
  | cons x xs ih =>
      cases ys with
      | nil => cases length_of_mapM h
      | cons y ys =>
          obtain ⟨hx, hxs⟩ := mapM_cons_eq_some_iff.mp h
          refine mapM_cons_eq_some_iff.mpr ⟨hfg x List.mem_cons_self y hx, ?_⟩
          exact ih (fun x' hx' => hfg x' (List.mem_cons_of_mem _ hx')) hxs

theorem mapM_congr {f g : X → Option Y} {xs : List X} (h : ∀ x ∈ xs, f x = g x) :
    xs.mapM f = xs.mapM g := by
  induction xs with
  | nil => rfl
  | cons x xs ih =>
      rw [List.mapM_cons, List.mapM_cons, h x List.mem_cons_self,
        ih fun x' hx' => h x' (List.mem_cons_of_mem _ hx')]

theorem exists_of_mapM {f : X → Option Y} {xs : List X} {ys : List Y}
    (h : xs.mapM f = some ys) : ∀ x ∈ xs, ∃ y, f x = some y := by
  induction xs generalizing ys with
  | nil =>
      intro x hx
      cases hx
  | cons x xs ih =>
      cases ys with
      | nil => cases length_of_mapM h
      | cons y ys =>
          obtain ⟨hx, hxs⟩ := mapM_cons_eq_some_iff.mp h
          exact List.forall_mem_cons.mpr ⟨⟨y, hx⟩, ih hxs⟩

theorem decodeEntry_eq_some_iff {value : RawFieldValue → Option AmqpValue} {e : RawTableEntry}
    {key : ByteString} {v : AmqpValue} :
    decodeEntry m value e = some (key, v) ↔
      readBytes m e.key = some key ∧ value e.value = some v := by
  rw [decodeEntry]
  cases readBytes m e.key <;> cases value e.value <;> simp

theorem decodeEntry_mono {value value' : RawFieldValue → Option AmqpValue}
    (hext : Extends m t) (hvalue : ∀ v x, value v = some x → value' v = some x)
    {e : RawTableEntry} {x : ByteString × AmqpValue} (h : decodeEntry m value e = some x) :
    decodeEntry t value' e = some x := by
  obtain ⟨hkey, hv⟩ := decodeEntry_eq_some_iff.mp h
  exact decodeEntry_eq_some_iff.mpr ⟨readSeq_mono hext hkey, hvalue _ _ hv⟩

/-- What was found is found later on, at any greater depth. -/
theorem decodeValue_mono (hext : Extends m t) {fuel fuel' : Nat} (hle : fuel ≤ fuel')
    {v : RawFieldValue} {x : AmqpValue} (h : decodeValue m fuel v = some x) :
    decodeValue t fuel' v = some x := by
  induction fuel generalizing fuel' v x with
  | zero => cases h
  | succ fuel ih =>
      obtain ⟨fuel', rfl⟩ := Nat.exists_eq_add_of_le' (Nat.le_trans (Nat.le_add_left 1 _) hle)
      have hle := Nat.le_of_succ_le_succ hle
      have hvalue (v : RawFieldValue) (x : AmqpValue) (h : decodeValue m fuel v = some x) :
          decodeValue t fuel' v = some x := ih hle h
      obtain ⟨kind, value⟩ := v
      simp only [decodeValue] at h
      split at h
      case h_15 | h_16 =>
        obtain ⟨cs, hcs, rfl⟩ := Option.map_eq_some_iff.mp h
        exact Option.map_eq_some_iff.mpr ⟨cs, readSeq_mono hext hcs, rfl⟩
      case h_17 a =>
        obtain ⟨xs, hxs, rfl⟩ := Option.map_eq_some_iff.mp h
        obtain ⟨vs, hread, hvs⟩ := Option.bind_eq_some_iff.mp hxs
        rw [decode_array (readSeq_mono hext hread)]
        exact Option.map_eq_some_iff.mpr ⟨xs, mapM_mono (fun v _ => hvalue v) hvs, rfl⟩
      case h_18 raw =>
        obtain ⟨xs, hxs, rfl⟩ := Option.map_eq_some_iff.mp h
        obtain ⟨es, hread, hes⟩ := Option.bind_eq_some_iff.mp hxs
        rw [decode_table (readSeq_mono hext hread)]
        exact Option.map_eq_some_iff.mpr
          ⟨xs, mapM_mono (fun _ _ _ => decodeEntry_mono hext hvalue) hes, rfl⟩
      case h_19 => cases h
      all_goals exact h

end Reading

/-! ## Rewrapped entries -/

section Rewrapped

variable {m t : Memory} {raw : RawTable} {es : List RawTableEntry}

/-- What came into being between `m` and `m'` is in `t` as it is in `m'`. -/
def NewBlocksStay (m m' t : Memory) : Prop :=
  ∀ a, m.size ≤ a → a < m'.size → t.read a = m'.read a

theorem ofRaw_eq {e : RawTableEntry} {key : ByteString} (hkey : readBytes m e.key = some key) :
    TableEntry.ofRaw e m =
      some (⟨⟨key.length, m.size⟩, .ofRaw e.value⟩, (m.alloc (.chars key)).2) := by
  rw [TableEntry.ofRaw, container, hkey]
  rfl

theorem rewrap_cons {e : RawTableEntry} {key : ByteString} (hkey : readBytes m e.key = some key) :
    rewrap (e :: es) m = (rewrap es (m.alloc (.chars key)).2).map fun (entries, m') =>
      (⟨⟨key.length, m.size⟩, .ofRaw e.value⟩ :: entries, m') := by
  rw [rewrap, ofRaw_eq hkey, Option.bind_eq_bind, Option.bind_some]
  dsimp only
  cases rewrap es (m.alloc (.chars key)).2 <;> rfl

/-- Rewrapped entries have the keys of before, and the values that `value` finds. -/
theorem rewrap_reads (hkeys : ∀ e ∈ es, (readBytes m e.key).isSome = true) :
    ∃ entries m', rewrap es m = some (entries, m') ∧ Extends m m' ∧
      ∀ t, NewBlocksStay m m' t → ∀ value : RawFieldValue → Option AmqpValue,
        (entries.map TableEntry.toRaw).mapM (decodeEntry t value) =
          es.mapM (decodeEntry m value) := by
  induction es generalizing m with
  | nil => exact ⟨[], m, rfl, Extends.refl m, fun _ _ _ => rfl⟩
  | cons e es ih =>
      obtain ⟨key, hkey⟩ := Option.isSome_iff_exists.mp (hkeys e List.mem_cons_self)
      have halloc := extends_alloc m (Block.chars key)
      -- the keys to come are still those of `m`
      have hlater (e' : RawTableEntry) (he' : e' ∈ es) :
          readBytes (m.alloc (.chars key)).2 e'.key = readBytes m e'.key := by
        obtain ⟨key', hkey'⟩ :=
          Option.isSome_iff_exists.mp (hkeys e' (List.mem_cons_of_mem _ he'))
        rw [hkey']
        exact readSeq_mono halloc hkey'
      obtain ⟨entries, m', hrewrap, hext, hreads⟩ := ih (m := (m.alloc (.chars key)).2)
        fun e' he' => by
          rw [hlater e' he']
          exact hkeys e' (List.mem_cons_of_mem _ he')
      refine ⟨_, m', by rw [rewrap_cons hkey, hrewrap]; rfl, halloc.trans hext, ?_⟩
      intro t hstay value
      have hsize := hext.1
      rw [size_alloc] at hsize
      have hown : readBytes t ⟨key.length, m.size⟩ = some key := by
        have hread : t.read m.size = some (.chars key) :=
          (hstay m.size (Nat.le_refl _) hsize).trans (read_of_alloc hext)
        rw [readBytes, readSeq_of_read hread rfl (Nat.le_refl _), List.take_length]
      have htail : (entries.map TableEntry.toRaw).mapM (decodeEntry t value) =
          es.mapM (decodeEntry m value) := by
        have hstay' : NewBlocksStay (m.alloc (.chars key)).2 m' t := fun a ha =>
          hstay a (Nat.le_trans halloc.1 ha)
        rw [hreads t hstay' value]
        refine mapM_congr fun e' he' => ?_
        rw [decodeEntry, decodeEntry, hlater e' he']
      rw [List.map_cons, List.mapM_cons, List.mapM_cons, htail]
      congr 1
      rw [decodeEntry, decodeEntry, hkey]
      exact congrArg (Option.bind · _) hown

/-- Every value in the table is found in `t` as it was in `m`. -/
def ValuesStay (raw : RawTable) (m t : Memory) : Prop :=
  ∀ es, readSeq m Block.asEntries raw.numEntries.toNat raw.entries = some es →
    ∀ e ∈ es, decodeValue t (t.size + 1) e.value = decodeValue m (m.size + 1) e.value

theorem mapM_decodeEntry_iff {value value' : RawFieldValue → Option AmqpValue}
    {contents : List (ByteString × AmqpValue)}
    (h : es.mapM (decodeEntry m value) = some contents) :
    es.mapM (decodeEntry m value') = some contents ↔
      ∀ e ∈ es, value' e.value = value e.value := by
  induction es generalizing contents with
  | nil =>
      refine iff_of_true h ?_
      intro e he
      cases he
  | cons e es ih =>
      cases contents with
      | nil => cases length_of_mapM h
      | cons x contents =>
          obtain ⟨hx, hes⟩ := mapM_cons_eq_some_iff.mp h
          obtain ⟨hkey, hv⟩ := decodeEntry_eq_some_iff.mp hx
          rw [mapM_cons_eq_some_iff, ih hes, decodeEntry_iff hkey, List.forall_mem_cons, hv]

/-- Of a table that can be read, a table of rewrapped entries can be made.  It reads as that
one, and goes on to exactly as long as the values stay what they were. -/
theorem rewrapped_reads {contents : List (ByteString × AmqpValue)}
    (h : decodeTable m raw = some contents) :
    ∃ table m', rewrapTable raw m = some (table, m') ∧
      decodeTable m' table.toRaw = some contents ∧
      ∀ t, NewBlocksStay m m' t →
        (decodeTable t table.toRaw = some contents ↔ ValuesStay raw m t) := by
  obtain ⟨es, hread, hes⟩ := Option.bind_eq_some_iff.mp h
  have hfound (e : RawTableEntry) (he : e ∈ es) : ∃ key v, readBytes m e.key = some key ∧
      decodeValue m (m.size + 1) e.value = some v := by
    obtain ⟨⟨key, v⟩, hx⟩ := exists_of_mapM hes e he
    exact ⟨key, v, decodeEntry_eq_some_iff.mp hx⟩
  have hkeys (e : RawTableEntry) (he : e ∈ es) : (readBytes m e.key).isSome = true := by
    obtain ⟨key, v, hkey, -⟩ := hfound e he
    rw [hkey]
    rfl
  obtain ⟨entries, m', hrewrap, hext, hreads⟩ := rewrap_reads hkeys
  have hmade : Extends m' (Table.make entries m').2 := extends_alloc m' _
  have hsize : m'.size < (Table.make entries m').2.size := by
    show _ < (m'.alloc _).2.size
    rw [size_alloc]
    exact Nat.lt_succ_self _
  have hrewrapped : rewrapTable raw m = some (Table.make entries m') := by
    rw [rewrapTable, hread, Option.bind_eq_bind, Option.bind_some, hrewrap]
    rfl
  have hlater (t : Memory) (hstay : NewBlocksStay m (Table.make entries m').2 t) :
      decodeTable t (Table.make entries m').1.toRaw = some contents ↔ ValuesStay raw m t := by
    have hentries : readSeq t Block.asEntries entries.length m'.size =
        some (entries.map TableEntry.toRaw) := by
      have hblock : t.read m'.size = some (.entries (entries.map TableEntry.toRaw)) :=
        (hstay m'.size hext.1 hsize).trans (read_alloc m' _)
      rw [← List.length_map TableEntry.toRaw, readSeq_of_read hblock rfl (Nat.le_refl _),
        List.take_length]
    have hkeys : NewBlocksStay m m' t := fun a ha hlt =>
      (hstay a ha (Nat.lt_trans hlt hsize)).trans (hmade.2 a hlt)
    have hdecode : decodeTable t (Table.make entries m').1.toRaw =
        es.mapM (decodeEntry m (decodeValue t (t.size + 1))) :=
      (congrArg (Option.bind · _) hentries).trans (hreads t hkeys _)
    rw [hdecode, mapM_decodeEntry_iff hes, ValuesStay, hread]
    exact ⟨fun hall es' h => Option.some.inj h ▸ hall, fun hall => hall es rfl⟩
  refine ⟨_, _, hrewrapped, (hlater _ fun _ _ _ => rfl).mpr ?_, hlater⟩
  -- the values are among what was there before
  intro es' hes' e he
  cases Option.some.inj (hread.symm.trans hes')
  have hextends := hext.trans hmade
  obtain ⟨key, v, -, hv⟩ := hfound e he
  rw [hv]
  exact decodeValue_mono hextends (Nat.succ_le_succ hextends.1) hv

end Rewrapped

/-- A table with the entry ("k", "v"), in a storage of its own: the value is in block 0, the
key in block 1, and the entry array in block 2. -/
def aReceivedTable : Table × Memory :=
  let (entries, m) := evalEntries stringEntry .empty
  Table.make entries m

/-- The rewrapped entry survives the key and the entry array, and not the value. -/
theorem received_entry_rewrapped :
    ∃ table m', rewrapTable aReceivedTable.1.toRaw aReceivedTable.2 = some (table, m') ∧
      decodeTable ((m'.free 1).free 2) table.toRaw = some (denoteEntries stringEntry) ∧
      decodeTable (m'.free 0) table.toRaw ≠ some (denoteEntries stringEntry) := by
  obtain ⟨table, m', hrewrap, -, hlater⟩ := rewrapped_reads
    (show decodeTable aReceivedTable.2 aReceivedTable.1.toRaw = some (denoteEntries stringEntry)
      from rfl)
  -- the new blocks start at 3
  have hfree (s : Memory) (a b : Addr) (ha : a < 3) (hb : aReceivedTable.2.size ≤ b) :
      (s.free a).read b = s.read b := read_free_ne s (Nat.ne_of_lt (Nat.lt_of_lt_of_le ha hb))
  refine ⟨table, m', hrewrap, (hlater _ fun b hb _ => ?_).mpr ?_, fun h => ?_⟩
  · rw [hfree _ 2 b (by decide) hb, hfree _ 1 b (by decide) hb]
  · cases Option.some.inj (hrewrap.symm.trans rfl)
    intro es hes e he
    cases Option.some.inj (hes.symm.trans rfl)
    cases List.mem_singleton.mp he
    rfl
  · have hstay := (hlater _ fun b hb _ => hfree m' 0 b (by decide) hb).mp h
    cases Option.some.inj (hrewrap.symm.trans rfl)
    cases hstay _ rfl _ List.mem_cons_self

end RmqCxx
