import Interlink.Data.Decode
import Interlink.Data.Encode
import Mathlib.Data.List.Nodup
import Mathlib.Data.List.Perm.Basic

/-!
# Decoders that read back what is written

A decoder reads an encoder back if it gives every value that is encoded, in every
format and in whatever order the members of records come (`Decode.ReadsBack`). The
order is a matter of who writes: an encoder lists members as they are described, and
a writer may sort them. Both are arrangements of one tree (`Data.Arranges`).

A record is written member by member and decoded field by field, so the law of a
record is put together as its decoder is: a field reads one binding of a name to a
value or to nothing (`Fields.Reads`), and two decoders side by side read the bindings
of both (`Fields.Reads.seq`). What carries the argument is that no name is bound
twice. Then a record of all bindings, in any order, shows each of them to a decoder
that looks for the name (`Fields.shows_of_perm`).
-/

namespace Interlink

/-! ## Maps -/

namespace SortedMap

variable {α : Type}

theorem lookup_eq_none_of_not_mem {l : List (String × α)} {k : String}
    (new : k ∉ l.map (·.1)) : l.lookup k = none := by
  refine List.lookup_eq_none_iff.mpr fun e he => bne_iff_ne.mpr ?_
  rintro rfl
  exact new (List.mem_map_of_mem he)

/-- Bindings of new names come in addition to those that are there. -/
theorem perm_foldl_insertEntry : ∀ l es : List (String × α), ((l ++ es).map (·.1)).Nodup →
    (l.foldl (fun es e => insertEntry e.1 e.2 es) es).Perm (l ++ es)
  | [], _, _ => .refl _
  | (k, v) :: rest, es, distinct => by
    have new := (List.nodup_cons.mp distinct).1
    simp only [List.append_eq, List.map_append, List.mem_append, not_or] at new
    have inserted : (insertEntry k v es).Perm ((k, v) :: es) :=
      perm_insertEntry (lookup_eq_none_of_not_mem new.2)
    have moved : (rest ++ insertEntry k v es).Perm ((k, v) :: rest ++ es) :=
      (inserted.append_left rest).trans List.perm_middle
    exact (perm_foldl_insertEntry rest _ ((moved.map _).nodup_iff.mpr distinct)).trans moved

theorem entries_ofList (l : List (String × α)) :
    (ofList l).entries = l.foldl (fun es e => insertEntry e.1 e.2 es) [] :=
  (List.foldl_hom entries fun _ _ => rfl).symm

/-- The entries of a map, in any order, make the map. -/
theorem ofList_of_perm {l : List (String × α)} {m : SortedMap α} (perm : l.Perm m.entries) :
    ofList l = m := by
  have distinct : (l.map (·.1)).Nodup := (perm.map _).nodup_iff.mpr m.nodup_keys
  have made := perm_foldl_insertEntry l [] (by rwa [List.append_nil])
  rw [← entries_ofList, List.append_nil] at made
  have same : (ofList l).entries.Perm m.entries := made.trans perm
  refine ext_entries (same.eq_of_pairwise ?_ (ofList l).ascending m.ascending)
  intro x y _ _ lt gt
  exact absurd (String.lt_trans lt gt) (String.lt_irrefl x.1)

end SortedMap

/-! ## Arrangements -/

namespace Data

/-- A way to write trees that is free in the order of the members of records. -/
structure Arranges (φ : Data → Data) : Prop where
  text : ∀ s, φ (.text s) = .text s
  bool : ∀ b, φ (.bool b) = .bool b
  list : ∀ ds, φ (.list ds) = .list (ds.map φ)
  record : ∀ ms : List (String × Data), (ms.map (·.1)).Nodup →
    ∃ ms', φ (.record ms) = .record ms' ∧ ms'.Perm (ms.map fun m => (m.1, φ m.2))

/-- Trees may be written as they are. -/
theorem arranges_id : Arranges id where
  text _ := rfl
  bool _ := rfl
  list ds := by simp
  record ms _ := ⟨ms, rfl, by simp⟩

theorem sortedItems_eq (ds : List Data) : sortedItems ds = ds.map sorted := by
  induction ds with
  | nil => rfl
  | cons d rest ih => rw [sortedItems, ih, List.map_cons]

theorem insertMember_eq (k : String) (d : Data) (ms : List (String × Data)) :
    insertMember k d ms = SortedMap.insertEntry k d ms := by
  induction ms with
  | nil => rfl
  | cons m rest ih => rw [insertMember, SortedMap.insertEntry, ih]

theorem sortedMembers_eq (done ms : List (String × Data)) :
    sortedMembers done ms = (ms.map fun m => (m.1, sorted m.2)).foldl
      (fun done m => SortedMap.insertEntry m.1 m.2 done) done := by
  induction ms generalizing done with
  | nil => rfl
  | cons m rest ih => rw [sortedMembers, ih, insertMember_eq, List.map_cons, List.foldl_cons]

/-- Trees may be written with sorted members. -/
theorem arranges_sorted : Arranges sorted where
  text _ := rfl
  bool _ := rfl
  list ds := by rw [sorted, sortedItems_eq]
  record ms distinct := by
    refine ⟨sortedMembers [] ms, rfl, ?_⟩
    have names : ((ms.map fun m => (m.1, sorted m.2)).map (·.1)).Nodup := by
      rw [List.map_map]
      exact distinct
    have perm := SortedMap.perm_foldl_insertEntry _ [] (by rwa [List.append_nil])
    rwa [List.append_nil, ← sortedMembers_eq] at perm

end Data

namespace Document

theorem ofItems_eq (ds : List Data) : ofItems ds = ds.map ofData := by
  induction ds with
  | nil => rfl
  | cons d rest ih => rw [ofItems, ih, List.map_cons]

theorem ofMembers_eq (ms : List (String × Data)) :
    ofMembers ms = ms.map fun m => (.text m.1, ofData m.2) := by
  induction ms with
  | nil => rfl
  | cons m rest ih => rw [ofMembers, ih, List.map_cons]

end Document

/-! ## Values -/

namespace Decode

variable {α : Type}

/-- A decoder gives every value that an encoder has written, however it is arranged. -/
def ReadsBack (decode : Decoder α) (encode : α → Data) : Prop :=
  ∀ φ, Data.Arranges φ → ∀ f a, decode f (.ofData (φ (encode a))) = .ok a

theorem readsBack_text : ReadsBack text .text := by
  intro φ arranges f s
  rw [arranges.text]
  rfl

theorem readsBack_bool : ReadsBack bool .bool := by
  intro φ arranges f b
  rw [arranges.bool]
  rfl

theorem items_map {decode : Document → Decoded α} {write : α → Document}
    (each : ∀ a, decode (write a) = .ok a) :
    ∀ (i : Nat) (as : List α), items decode i (as.map write) = .ok as
  | _, [] => rfl
  | i, a :: rest => by
    rw [List.map_cons, items, each, items_map each (i + 1) rest]
    rfl

theorem ReadsBack.list {decode : Decoder α} {encode : α → Data} (h : ReadsBack decode encode) :
    ReadsBack (Decode.list decode) fun as => .list (as.map encode) := by
  intro φ arranges f as
  rw [arranges.list, Document.ofData, Document.ofItems_eq, List.map_map, List.map_map]
  exact items_map (fun a => h φ arranges f a) 0 as

theorem entries_map {decode : Document → Decoded α} {write : α → Document}
    (each : ∀ a, decode (write a) = .ok a) (f : Format) :
    ∀ es : List (String × α),
      entries decode (name .text f) (es.map fun e => (.text e.1, write e.2)) = .ok es
  | [] => rfl
  | (k, a) :: rest => by
    have named : name .text f (.text k) = .ok k := by cases f <;> rfl
    rw [List.map_cons, entries, named, each, entries_map each f rest]
    rfl

theorem ReadsBack.sortedMap {decode : Decoder α} {encode : α → Data}
    (h : ReadsBack decode encode) :
    ReadsBack (Decode.sortedMap decode) (Encode.mapData encode) := by
  intro φ arranges f m
  have distinct : ((m.entries.map fun e => (e.1, encode e.2)).map (·.1)).Nodup := by
    rw [List.map_map]
    exact m.nodup_keys
  obtain ⟨ms, written, perm⟩ := arranges.record _ distinct
  rw [List.map_map] at perm
  -- what is written in another order is what another order of the entries is written as
  have reordered : Relation.Comp
      (fun ms es => ms = es.map fun e : String × α => (e.1, φ (encode e.2)))
      List.Perm ms m.entries := by
    rw [List.eq_map_comp_perm]
    exact perm
  obtain ⟨es, rfl, entries⟩ := reordered
  have read := entries_map (fun a => h φ arranges f a) f es
  rw [Encode.mapData, written, Document.ofData, Document.ofMembers_eq, List.map_map]
  unfold Decode.sortedMap Decode.map
  simp only [Function.comp_def, read, Except.map, SortedMap.ofList_of_perm entries]

/-- An alternative is written as its name. -/
theorem readsBack_alternative {all : List α} {label : α → String} (complete : ∀ a, a ∈ all)
    (injective : ∀ {a b}, label a = label b → a = b) :
    ReadsBack (alternative all label) fun a => .text (label a) := by
  intro φ arranges f a
  have found : all.find? (fun b => label b == label a) = some a := by
    cases first : all.find? (fun b => label b == label a) with
    | none => exact absurd (List.find?_eq_none.mp first a (complete a)) (by simp)
    | some b =>
      have same := List.find?_some first
      rw [injective (beq_iff_eq.mp same)]
  rw [arranges.text]
  cases f <;> simp only [Document.ofData, alternative, found]

end Decode

/-! ## Members -/

namespace Encode

/-- The members of a binding: one, or none if there is no value. -/
def bound (b : String × Option Data) : Members := (b.2.map (b.1, ·)).toList

/-- A member that is left out when there is no value is a binding. -/
theorem optional_eq {α : Type} (encode : α → Data) (name : String) (a : Option α) :
    optional encode name a = bound (name, a.map encode) := by
  cases a <;> rfl

theorem names_sublist (bs : List (String × Option Data)) :
    ((bs.flatMap bound).map (·.1)).Sublist (bs.map (·.1)) := by
  induction bs with
  | nil => exact .slnil
  | cons b rest ih =>
    obtain ⟨name, value⟩ := b
    cases value with
    | none => exact ih.cons name
    | some d => exact ih.cons_cons name

theorem mem_bound {bs : List (String × Option Data)} {name : String} {d : Data} :
    (name, d) ∈ bs.flatMap bound ↔ (name, some d) ∈ bs := by
  simp only [List.mem_flatMap, bound, Option.mem_toList, Option.map_eq_some_iff, Prod.mk.injEq]
  constructor
  · rintro ⟨⟨name', value⟩, hb, d', given, rfl, rfl⟩
    rwa [← given]
  · exact fun hb => ⟨_, hb, d, rfl, rfl, rfl⟩

end Encode

namespace Fields

variable {α β : Type}

/-- What no member is named is not found. -/
theorem locate_of_not_mem {name : String} :
    ∀ {ms : List (String × Document)} (i : Nat), name ∉ ms.map (·.1) →
      locate name i ms = (none, none)
  | [], _, _ => rfl
  | (k, d) :: rest, i, absent => by
    rw [List.map_cons, List.mem_cons, not_or] at absent
    rw [locate, if_neg (Ne.symm absent.1), locate_of_not_mem (i + 1) absent.2]

/-- The only member of a name is found. -/
theorem locate_of_mem {name : String} {d : Document} :
    ∀ {ms : List (String × Document)} (i : Nat), (ms.map (·.1)).Nodup → (name, d) ∈ ms →
      ∃ j, locate name i ms = (some (j, d), none)
  | (k, d') :: rest, i, distinct, there => by
    obtain ⟨new, others⟩ := List.nodup_cons.mp distinct
    rcases List.mem_cons.mp there with here | later
    · cases here
      exact ⟨i, by rw [locate, if_pos rfl, locate_of_not_mem (i + 1) new, Option.map_none]⟩
    · have other : k ≠ name := by
        rintro rfl
        exact new (List.mem_map.mpr ⟨_, later, rfl⟩)
      obtain ⟨j, found⟩ := locate_of_mem (i + 1) others later
      exact ⟨j, by rw [locate, if_neg other, found]⟩

/-- A decoder that looks for a name in some members finds the value that the name is bound to, and
nothing if it is bound to nothing. -/
def Shows (φ : Data → Data) (ms : List (String × Document)) : String × Option Data → Prop
  | (name, some d) => ∃ i, locate name 0 ms = (some (i, .ofData (φ d)), none)
  | (name, none) => locate name 0 ms = (none, none)

/-- The members of some bindings, in any order, show each of them. -/
theorem shows_of_perm {φ : Data → Data} {bs : List (String × Option Data)}
    {ms : List (String × Document)} (distinct : (bs.map (·.1)).Nodup)
    (perm : ms.Perm ((bs.flatMap Encode.bound).map fun m => (m.1, .ofData (φ m.2)))) :
    ∀ b ∈ bs, Shows φ ms b := by
  have names : (ms.map (·.1)).Perm ((bs.flatMap Encode.bound).map (·.1)) := by
    simpa [Function.comp_def] using perm.map (·.1)
  have once : (ms.map (·.1)).Nodup :=
    names.nodup_iff.mpr (distinct.sublist (Encode.names_sublist bs))
  rintro ⟨name, value⟩ hb
  cases value with
  | some d =>
    refine locate_of_mem 0 once (perm.mem_iff.mpr ?_)
    exact List.mem_map.mpr ⟨(name, d), Encode.mem_bound.mpr hb, rfl⟩
  | none =>
    refine locate_of_not_mem 0 fun there => ?_
    obtain ⟨⟨name', d⟩, bound, rfl⟩ := List.mem_map.mp (names.mem_iff.mp there)
    have same := List.inj_on_of_nodup_map distinct hb (Encode.mem_bound.mp bound) rfl
    exact nomatch congrArg Prod.snd same

/-- A decoder for fields gives a value wherever it is shown some bindings of the names that it
looks for. -/
structure Reads (x : Fields α) (bs : List (String × Option Data)) (a : α) : Prop where
  names : x.places.map (·.name) = bs.map (·.1)
  read : ∀ φ, Data.Arranges φ → ∀ f ms, (∀ b ∈ bs, Shows φ ms b) → x.read f ms = .ok a

theorem reads_pure (a : α) : Reads (pure a) [] a := ⟨rfl, fun _ _ _ _ _ => rfl⟩

/-- Decoders side by side read the bindings of both. -/
theorem Reads.seq {x : Fields (α → β)} {y : Fields α} {bs bs' : List (String × Option Data)}
    {g : α → β} {a : α} (h : x.Reads bs g) (h' : y.Reads bs' a) :
    (x <*> y).Reads (bs ++ bs') (g a) where
  names := by
    rw [List.map_append, ← h.names, ← h'.names, ← List.map_append]
    rfl
  read φ arranges f ms shown := by
    obtain ⟨first, second⟩ := List.forall_mem_append.mp shown
    have one := h.read φ arranges f ms first
    have other := h'.read φ arranges f ms second
    show (Fields.seq x fun _ => y).read f ms = _
    simp only [Fields.seq, one, other]

theorem Reads.map {x : Fields α} {bs : List (String × Option Data)} {a : α} (h : x.Reads bs a)
    (g : α → β) : (g <$> x).Reads bs (g a) :=
  (reads_pure g).seq h

section Field

variable {decode : Decoder α} {encode : α → Data} {place : Place} {default : Except Misfit α}

/-- A field that is written is read. -/
theorem reads_fieldOr (h : Decode.ReadsBack decode encode) (a : α) :
    (fieldOr place decode default).Reads [(place.name, some (encode a))] a where
  names := rfl
  read φ arranges f ms shown := by
    obtain ⟨i, found⟩ := shown _ (List.mem_singleton_self _)
    simp only [fieldOr, found, h φ arranges f a]
    rfl

theorem reads_field {name : String} (h : Decode.ReadsBack decode encode) (a : α) :
    (field name decode).Reads [(name, some (encode a))] a :=
  reads_fieldOr h a

theorem reads_fieldD {name : String} {default : α} (h : Decode.ReadsBack decode encode) (a : α) :
    (fieldD name decode default).Reads [(name, some (encode a))] a :=
  reads_fieldOr h a

theorem reads_listField {name : String} (h : Decode.ReadsBack decode encode) (as : List α) :
    (listField name decode).Reads [(name, some (.list (as.map encode)))] as :=
  reads_fieldD h.list as

/-- What a decoder of values that are not nothing gives, it gives where nothing may stand, too. -/
theorem option_of_ok {f : Format} {d : Data} {a : α} (given : decode f (.ofData d) = .ok a)
    (refuses : decode f .null ≠ .ok a) : Decode.option decode f (.ofData d) = .ok (some a) := by
  cases d with
  | null => exact absurd given refuses
  | _ => simp only [Document.ofData, Decode.option] at given ⊢; rw [given]; rfl

/-- A field that may hold nothing is read, whether it is written or left out. -/
theorem reads_optionField {name : String} (h : Decode.ReadsBack decode encode)
    (refuses : ∀ f a, decode f .null ≠ .ok a) (a : Option α) :
    (optionField name decode).Reads [(name, a.map encode)] a where
  names := rfl
  read φ arranges f ms shown := by
    have shown := shown _ (List.mem_singleton_self _)
    cases a with
    | none =>
      have absent : locate name 0 ms = (none, none) := shown
      simp only [optionField, fieldOr, absent]
    | some a =>
      obtain ⟨i, found⟩ := shown
      have given := option_of_ok (h φ arranges f a) (refuses f a)
      simp only [optionField, fieldOr, found, given]
      rfl

end Field

/-- Keys that are texts are names. -/
theorem named_texts (places : List Place) (f : Format) (ms : List (String × Document)) :
    named places f (ms.map fun m => (.text m.1, m.2)) = (ms, none) := by
  induction ms with
  | nil => rfl
  | cons m rest ih =>
    rw [List.map_cons, named, ih]
    cases f <;> rfl

theorem ofMembers_ok {fields : Fields α} {f : Format} {ms : List (String × Document)} {a : α}
    (read : fields.read f ms = .ok a) :
    fields.ofMembers f (ms.map fun m => (.text m.1, m.2)) = .ok a := by
  simp only [ofMembers, named_texts, read]

end Fields

/-! ## Records -/

namespace Decode

variable {α β : Type}

/-- A record of members, as it is arranged. -/
theorem exists_arranged {φ : Data → Data} (arranges : Data.Arranges φ) {members : Encode.Members}
    (distinct : (members.map (·.1)).Nodup) :
    ∃ ms : List (String × Document),
      Document.ofData (φ (.record members)) = .record (ms.map fun m => (.text m.1, m.2)) ∧
      ms.Perm (members.map fun m => (m.1, .ofData (φ m.2))) := by
  obtain ⟨ms, written, perm⟩ := arranges.record _ distinct
  refine ⟨ms.map fun m => (m.1, .ofData m.2), ?_, ?_⟩
  · rw [written, Document.ofData, Document.ofMembers_eq, List.map_map]
    rfl
  · simpa [Function.comp_def] using perm.map fun m => (m.1, Document.ofData m.2)

/-- A record is read back if each of its values is read from some bindings that it is written as,
and no name is looked for twice. -/
theorem readsBack_struct {name : String} {fields : Fields α} {encode : α → Data}
    {bs : α → List (String × Option Data)} (each : ∀ a, fields.Reads (bs a) a)
    (written : ∀ a, encode a = .record ((bs a).flatMap Encode.bound))
    (distinct : (fields.places.map (·.name)).Nodup) : ReadsBack (struct name fields) encode := by
  intro φ arranges f a
  have once : ((bs a).map (·.1)).Nodup := (each a).names ▸ distinct
  obtain ⟨ms, arranged, perm⟩ :=
    exists_arranged arranges (once.sublist (Encode.names_sublist (bs a)))
  rw [written, arranged]
  exact Fields.ofMembers_ok ((each a).read φ arranges f ms (Fields.shows_of_perm once perm))

/-- A record with one more member, which the remaining part of its value is made of, is read back
in the same way. -/
theorem readsBack_structWith {name : String} {fields : Fields (β → α)}
    {decode : Format → List (String × Document) → Decoded β} {encode : α → Data}
    {bs : α → List (String × Option Data)} (more : α → String × Data) (part : α → β)
    (g : α → β → α) (each : ∀ a, fields.Reads (bs a) (g a)) (whole : ∀ a, g a (part a) = a)
    (written : ∀ a, ∃ ms, encode a = .record ms ∧ ms.Perm (more a :: (bs a).flatMap Encode.bound))
    (distinct : (fields.places.map (·.name)).Nodup)
    (new : ∀ a, (more a).1 ∉ fields.places.map (·.name))
    (decoded : ∀ φ, Data.Arranges φ → ∀ f a,
      decode f [((more a).1, .ofData (φ (more a).2))] = .ok (part a)) :
    ReadsBack (structWith name fields decode) encode := by
  intro φ arranges f a
  obtain ⟨members, record, perm⟩ := written a
  -- the one more member is one more binding
  let all := ((more a).1, some (more a).2) :: bs a
  have once : (all.map (·.1)).Nodup := by
    rw [List.map_cons, ← (each a).names]
    exact List.nodup_cons.mpr ⟨new a, distinct⟩
  have onceWritten : (members.map (·.1)).Nodup :=
    (perm.map _).nodup_iff.mpr (once.sublist (Encode.names_sublist all))
  obtain ⟨ms, arranged, shuffled⟩ := exists_arranged arranges onceWritten
  have shuffled := shuffled.trans (perm.map _)
  have shown : ∀ b ∈ all, Fields.Shows φ ms b := Fields.shows_of_perm once shuffled
  have read := (each a).read φ arranges f ms fun b hb => shown b (List.mem_cons_of_mem _ hb)
  have rest : ms.filter (fun m => fields.places.all (·.name ≠ m.1)) =
      [((more a).1, .ofData (φ (more a).2))] := by
    have mine : (fields.places.all (·.name ≠ (more a).1)) = true := by
      refine List.all_eq_true.mpr fun place there => decide_eq_true fun name => new a ?_
      rw [← name]
      exact List.mem_map_of_mem there
    have theirs : (((bs a).flatMap Encode.bound).map fun m =>
        (m.1, Document.ofData (φ m.2))).filter
          (fun m => fields.places.all (·.name ≠ m.1)) = [] := by
      refine List.filter_eq_nil_iff.mpr fun m hm unknown => ?_
      obtain ⟨m', hm', rfl⟩ := List.mem_map.mp hm
      have named : m'.1 ∈ (bs a).map (·.1) :=
        (Encode.names_sublist (bs a)).subset (List.mem_map_of_mem hm')
      rw [← (each a).names] at named
      obtain ⟨place, there, name⟩ := List.mem_map.mp named
      exact of_decide_eq_true (List.all_eq_true.mp unknown place there) name
    have left := shuffled.filter fun m => fields.places.all (·.name ≠ m.1)
    rw [List.map_cons, List.filter_cons, if_pos mine, theirs] at left
    exact List.perm_singleton.mp left
  have others : (Fields.others fields.places decode).read f ms = .ok (part a) := by
    show Except.mapError _ (decode f (ms.filter _)) = _
    rw [rest, decoded φ arranges]
    rfl
  rw [record, arranged]
  refine Fields.ofMembers_ok ?_
  show (Fields.seq fields fun _ => Fields.others fields.places decode).read f ms = _
  simp only [Fields.seq, read, others, whole]

end Decode

end Interlink
