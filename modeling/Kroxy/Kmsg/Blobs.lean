import Kroxy.Kmsg.Fields
import Kroxy.Rewrite.Groups

/-!
# `Kroxy.Kmsg.Blobs`: the blobs of the consumer protocol

A member's subscription and its assignment are blobs with topic names in them. `BlobCodec` is
what the two have in common, and `BlobCodec.rewrite` is what the rewriters do to either.
`BlobCodec.Lawful` is what they may rely on: a value off the wire, under other topic names
that fit a 16-bit length, is read back from its encoding.

Both blobs start with a version, which says which fields follow. `kmsgConsumer` reads and
writes them as `kmsg` does: readers ignore bytes behind the last field they know, and writers
let a length wrap. `kmsgConsumer_lawful` proves the law for it.
-/

set_option autoImplicit false

namespace Kroxy.Kmsg

open Kroxy.Go
open Kroxy.Lib
open Kroxy.Rewrite

/-! ### Topic names in blobs -/

/-- The same subscription under other topic names. -/
def ConsumerMemberMetadata.rename (fn : GoString → GoString) (m : ConsumerMemberMetadata) :
    ConsumerMemberMetadata :=
  { m with
      topics := m.topics.map fn
      ownedPartitions := m.ownedPartitions.map (·.rename fn) }

/-- The topic names in a subscription. -/
def ConsumerMemberMetadata.names (m : ConsumerMemberMetadata) : List GoString :=
  m.topics ++ m.ownedPartitions.map (·.topic)

/-- The same assignment under other topic names. -/
def ConsumerMemberAssignment.rename (fn : GoString → GoString)
    (a : ConsumerMemberAssignment) : ConsumerMemberAssignment :=
  { a with topics := a.topics.map (·.rename fn) }

/-- The topic names in an assignment. -/
def ConsumerMemberAssignment.names (a : ConsumerMemberAssignment) : List GoString :=
  a.topics.map (·.topic)

/-- Renaming topics renames their names. -/
theorem map_topic_rename {π : Type} (fn : GoString → GoString) (ts : List (TopicOf π)) :
    (ts.map (·.rename fn)).map (·.topic) = (ts.map (·.topic)).map fn := by
  simp only [List.map_map]
  rfl

/-- The names of a renamed subscription are the renamed names. -/
@[simp] theorem names_rename_metadata (fn : GoString → GoString)
    (m : ConsumerMemberMetadata) : (m.rename fn).names = m.names.map fn := by
  simp only [ConsumerMemberMetadata.names, ConsumerMemberMetadata.rename, map_topic_rename,
    List.map_append]

/-- And those of a renamed assignment. -/
@[simp] theorem names_rename_assignment (fn : GoString → GoString)
    (a : ConsumerMemberAssignment) : (a.rename fn).names = a.names.map fn :=
  map_topic_rename fn a.topics

/-- Renaming twice is renaming with the composition. -/
theorem rename_rename_metadata (f g : GoString → GoString) (m : ConsumerMemberMetadata) :
    (m.rename f).rename g = m.rename (g ∘ f) := by
  simp only [ConsumerMemberMetadata.rename, List.map_map]
  rfl

/-- Renaming twice is renaming once. -/
theorem rename_rename_assignment (f g : GoString → GoString)
    (a : ConsumerMemberAssignment) : (a.rename f).rename g = a.rename (g ∘ f) := by
  simp only [ConsumerMemberAssignment.rename, List.map_map]
  rfl

/-- A list is its own image when each of its elements is. -/
theorem map_eq_self_iff {α : Type} {f : α → α} {xs : List α} :
    xs.map f = xs ↔ ∀ x ∈ xs, f x = x := by
  have h : xs.map f = xs.map id ↔ ∀ x ∈ xs, f x = id x := List.map_inj_left
  rw [List.map_id] at h
  exact h

/-- Topics are the same under a renaming exactly when it changes none of their names. -/
theorem map_rename_eq_self_iff {π : Type} {fn : GoString → GoString}
    {ts : List (TopicOf π)} :
    ts.map (·.rename fn) = ts ↔ ∀ n ∈ ts.map (·.topic), fn n = n := by
  rw [List.forall_mem_map, map_eq_self_iff]
  refine forall₂_congr fun t _ => ?_
  constructor
  · intro h
    exact congrArg TopicOf.topic h
  · intro h
    rw [TopicOf.rename, h]

/-- A subscription stays as it is when all its names do. -/
theorem rename_eq_self_iff_metadata {fn : GoString → GoString} {m : ConsumerMemberMetadata} :
    m.rename fn = m ↔ ∀ n ∈ m.names, fn n = n := by
  obtain ⟨version, topics, userData, ownedPartitions, generation, rack⟩ := m
  simp only [ConsumerMemberMetadata.rename, ConsumerMemberMetadata.names,
    ConsumerMemberMetadata.mk.injEq, true_and, and_true, List.forall_mem_append]
  rw [map_eq_self_iff, map_rename_eq_self_iff]

/-- So does an assignment. -/
theorem rename_eq_self_iff_assignment {fn : GoString → GoString}
    {a : ConsumerMemberAssignment} : a.rename fn = a ↔ ∀ n ∈ a.names, fn n = n := by
  obtain ⟨version, topics, userData⟩ := a
  simp only [ConsumerMemberAssignment.rename, ConsumerMemberAssignment.names,
    ConsumerMemberAssignment.mk.injEq, true_and, and_true, map_rename_eq_self_iff]

/-! ### Blobs with topic names -/

/-- Values with topic names in them, and their encoding as a blob. `none` is a decode
error. -/
structure BlobCodec (α : Type) where
  read : Bytes → Option α
  append : α → Bytes
  rename : (GoString → GoString) → α → α
  names : α → List GoString
  rename_rename : ∀ (f g : GoString → GoString) (v : α), rename g (rename f v) = rename (g ∘ f) v
  rename_eq_self_iff : ∀ {f : GoString → GoString} {v : α},
    rename f v = v ↔ ∀ n ∈ names v, f n = n
  names_rename : ∀ (f : GoString → GoString) (v : α), names (rename f v) = (names v).map f

/-- The subscriptions of a consumer codec. -/
def subscriptions (B : ConsumerCodec) : BlobCodec ConsumerMemberMetadata where
  read := B.readMetadata
  append := B.appendMetadata
  rename := ConsumerMemberMetadata.rename
  names := ConsumerMemberMetadata.names
  rename_rename := rename_rename_metadata
  rename_eq_self_iff := rename_eq_self_iff_metadata
  names_rename := names_rename_metadata

/-- The assignments of a consumer codec. -/
def assignments (B : ConsumerCodec) : BlobCodec ConsumerMemberAssignment where
  read := B.readAssignment
  append := B.appendAssignment
  rename := ConsumerMemberAssignment.rename
  names := ConsumerMemberAssignment.names
  rename_rename := rename_rename_assignment
  rename_eq_self_iff := rename_eq_self_iff_assignment
  names_rename := names_rename_assignment

namespace BlobCodec

variable {α : Type} (K : BlobCodec α)

/-- Apply `fn` to every topic name in a blob. A blob that is empty or does not decode stays as
it is. -/
def rewrite (blob : Bytes) (fn : GoString → GoString) : Bytes :=
  if blob.length = 0 then blob
  else
    match K.read blob with
    | none => blob
    | some v => K.append (K.rename fn v)

/-- What a codec does with values off the wire. -/
structure Lawful : Prop where
  /-- An empty blob does not decode. -/
  read_nil : K.read [] = none
  /-- A name off the wire fits its length field. -/
  fits_of_read : ∀ {blob : Bytes} {v : α}, K.read blob = some v →
    ∀ n ∈ K.names v, n.length ≤ maxString
  /-- A value off the wire is read back from its encoding, under any names that fit. -/
  read_append : ∀ {blob : Bytes} {v : α} {fn : GoString → GoString}, K.read blob = some v →
    (∀ n ∈ K.names v, (fn n).length ≤ maxString) →
      K.read (K.append (K.rename fn v)) = some (K.rename fn v)

end BlobCodec

/-- `rewriteConsumerSubscription` is the general rewrite for subscriptions. -/
theorem rewriteConsumerSubscription_eq (B : ConsumerCodec) (blob : Bytes)
    (fn : GoString → GoString) :
    rewriteConsumerSubscription B blob fn = (subscriptions B).rewrite blob fn := by
  have hread : (subscriptions B).read blob = B.readMetadata blob := rfl
  unfold rewriteConsumerSubscription BlobCodec.rewrite
  rw [hread]
  cases B.readMetadata blob <;> rfl

/-- `rewriteConsumerAssignment` is the general rewrite for assignments. -/
theorem rewriteConsumerAssignment_eq (B : ConsumerCodec) (blob : Bytes)
    (fn : GoString → GoString) :
    rewriteConsumerAssignment B blob fn = (assignments B).rewrite blob fn := by
  have hread : (assignments B).read blob = B.readAssignment blob := rfl
  unfold rewriteConsumerAssignment BlobCodec.rewrite
  rw [hread]
  cases B.readAssignment blob <;> rfl

/-- A consumer codec both of whose parts are lawful. -/
structure Lawful (B : ConsumerCodec) : Prop where
  subscriptions : (subscriptions B).Lawful
  assignments : (assignments B).Lawful

/-! ### The formats -/

/-- A topic name and its partitions. -/
def topicFormat {π : Type} (f : Format GoError π) : Format GoError (TopicOf π) :=
  (stringFormat.pair (arrayFormat f)).iso
    { toFun := fun x => ⟨x.1, x.2⟩
      invFun := fun t => (t.topic, t.partitions)
      left_inv := fun _ => rfl
      right_inv := fun _ => rfl }

/-- `ConsumerMemberMetadata`. -/
def metadataFormat : Format GoError ConsumerMemberMetadata :=
  (int16Format.andThen fun version =>
    (arrayFormat stringFormat).pair <|
    nullableBytesFormat.pair <|
    (Format.since (1 ≤ version) [] (arrayFormat (topicFormat int32Format))).pair <|
    (Format.since (2 ≤ version) (-1) int32Format).pair <|
    Format.since (3 ≤ version) none nullableStringFormat).iso
    { toFun := fun x => ⟨x.1, x.2.1, x.2.2.1, x.2.2.2.1, x.2.2.2.2.1, x.2.2.2.2.2⟩
      invFun := fun m =>
        (m.version, m.topics, m.userData, m.ownedPartitions, m.generation, m.rack)
      left_inv := fun _ => rfl
      right_inv := fun _ => rfl }

/-- `ConsumerMemberAssignment`. All versions have the same fields. -/
def assignmentFormat : Format GoError ConsumerMemberAssignment :=
  (int16Format.pair <|
    (arrayFormat (topicFormat int32Format)).pair nullableBytesFormat).iso
    { toFun := fun x => ⟨x.1, x.2.1, x.2.2⟩
      invFun := fun a => (a.version, a.topics, a.userData)
      left_inv := fun _ => rfl
      right_inv := fun _ => rfl }

/-- `kmsg`'s codecs of the two blobs. -/
def kmsgConsumer : ConsumerCodec where
  readMetadata blob := (metadataFormat.decode blob).toOption
  appendMetadata := metadataFormat.append
  readAssignment blob := (assignmentFormat.decode blob).toOption
  appendAssignment := assignmentFormat.append

/-! ### Renaming what fits -/

/-- A topic fits when its name and its partitions do. -/
theorem fits_topic_iff {π : Type} (f : Format GoError π) (t : TopicOf π) :
    (topicFormat f).Fits t ↔
      t.topic.length ≤ maxString ∧ (arrayFormat f).Fits t.partitions := Iff.rfl

/-- Topics under other names: only the names can be too long. -/
theorem fits_topics_rename {π : Type} {f : Format GoError π} {ts : List (TopicOf π)}
    (h : (arrayFormat (topicFormat f)).Fits ts) (fn : GoString → GoString) :
    (arrayFormat (topicFormat f)).Fits (ts.map (·.rename fn)) ↔
      ∀ t ∈ ts, (fn t.topic).length ≤ maxString := by
  rw [fits_array_map _ h]
  refine forall₂_congr fun t ht => ?_
  have hpartitions : (arrayFormat f).Fits t.partitions := (h.2 t ht).2
  rw [fits_topic_iff]
  exact and_iff_left hpartitions

/-- A subscription that fits still fits under names that do. -/
theorem fits_metadata_rename {m : ConsumerMemberMetadata} (h : metadataFormat.Fits m)
    {fn : GoString → GoString} (hnames : ∀ n ∈ m.names, (fn n).length ≤ maxString) :
    metadataFormat.Fits (m.rename fn) := by
  rw [ConsumerMemberMetadata.names, List.forall_mem_append, List.forall_mem_map] at hnames
  obtain ⟨hversion, htopics, huserData, howned, hrest⟩ := h
  refine ⟨hversion, (fits_array_map _ htopics fn).mpr hnames.1, huserData, ?_, hrest⟩
  -- Owned partitions are on the wire from version 1 on; before that there are none to rename.
  refine Format.fits_since_of howned ?_ ?_
  · intro hfits
    exact (fits_topics_rename hfits fn).mpr hnames.2
  · intro hnone
    show m.ownedPartitions.map _ = []
    rw [show m.ownedPartitions = [] from hnone]
    rfl

/-- A renamed assignment fits when the new names are short enough. -/
theorem fits_assignment_rename {a : ConsumerMemberAssignment} (h : assignmentFormat.Fits a)
    {fn : GoString → GoString} (hnames : ∀ n ∈ a.names, (fn n).length ≤ maxString) :
    assignmentFormat.Fits (a.rename fn) := by
  rw [ConsumerMemberAssignment.names, List.forall_mem_map] at hnames
  obtain ⟨hversion, htopics, huserData⟩ := h
  exact ⟨hversion, (fits_topics_rename htopics fn).mpr hnames, huserData⟩

/-- The names in a subscription that fits. -/
theorem names_of_fits_metadata {m : ConsumerMemberMetadata} (h : metadataFormat.Fits m) :
    ∀ n ∈ m.names, n.length ≤ maxString := by
  obtain ⟨-, htopics, -, howned, -⟩ := h
  rw [ConsumerMemberMetadata.names, List.forall_mem_append, List.forall_mem_map]
  refine ⟨htopics.2, ?_⟩
  intro t ht
  rw [Format.fits_since] at howned
  split at howned
  · exact (howned.2 t ht).1
  · rw [show m.ownedPartitions = [] from howned] at ht
    cases ht

/-- The names of an assignment that fits are short enough. -/
theorem names_of_fits_assignment {a : ConsumerMemberAssignment}
    (h : assignmentFormat.Fits a) : ∀ n ∈ a.names, n.length ≤ maxString := by
  obtain ⟨-, htopics, -⟩ := h
  rw [ConsumerMemberAssignment.names, List.forall_mem_map]
  intro t ht
  exact (htopics.2 t ht).1

/-- An option is a value when the result is. -/
theorem toOption_eq_some {ε α : Type} {r : Except ε α} {a : α} :
    r.toOption = some a ↔ r = .ok a := by
  cases r <;> simp [Except.toOption]

/-- A codec that decodes with a format is lawful when renaming keeps what fits. -/
theorem lawful_of_format {α : Type} (K : BlobCodec α) (f : Format GoError α)
    (hread : K.read = fun blob => (f.decode blob).toOption) (happend : K.append = f.append)
    (hnil : K.read [] = none)
    (hnames : ∀ {v : α}, f.Fits v → ∀ n ∈ K.names v, n.length ≤ maxString)
    (hrename : ∀ {v : α} {fn : GoString → GoString}, f.Fits v →
      (∀ n ∈ K.names v, (fn n).length ≤ maxString) → f.Fits (K.rename fn v)) : K.Lawful := by
  have hfits : ∀ {blob : Bytes} {v : α}, K.read blob = some v → f.Fits v := by
    intro blob v h
    rw [hread] at h
    exact Format.fits_of_decode (toOption_eq_some.mp h)
  refine ⟨hnil, fun h => hnames (hfits h), ?_⟩
  intro blob v fn h hfn
  rw [hread, happend]
  exact toOption_eq_some.mpr ((f.decode_append_iff _).mpr (hrename (hfits h) hfn))

/-- The formats of `kmsg` read back what they write. -/
theorem kmsgConsumer_lawful : Lawful kmsgConsumer where
  subscriptions := lawful_of_format _ metadataFormat rfl rfl rfl names_of_fits_metadata
    (fun hfits hnames => fits_metadata_rename hfits hnames)
  assignments := lawful_of_format _ assignmentFormat rfl rfl rfl names_of_fits_assignment
    (fun hfits hnames => fits_assignment_rename hfits hnames)

end Kroxy.Kmsg
