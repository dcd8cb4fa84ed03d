import Kroxy.Lib.InPlace
import Kroxy.Rewrite.Groups
import Kroxy.Rewrite.Topics

/-!
# `Kroxy.Rewrite.InPlace`: the filtering rewriters on their arrays

`MetadataResponseOut`, `ListGroupsResponseOut` and `DescribeConfigsResponseOut` append the
entries they keep to `resp.Topics[:0]` and its like, the array they are reading. This module
has them with these loops. `spare` is what stands in the array behind the response's entries.

Each is equal to its model in `Kroxy.Rewrite.Topics` or `Kroxy.Rewrite.Groups`, which has a
`filterMap` for the loop. So the rest of the development may use the latter.
-/

set_option autoImplicit false

namespace Kroxy.Rewrite

open Kroxy.Go
open Kroxy.Lib
open Kroxy.Kmsg

/-! ### `MetadataResponseOut` -/

/-- The inner loops: every id of a partition is set to 0 in its place. -/
def virtualPartitionInPlace (part : MetadataResponseTopicPartition) :
    MetadataResponseTopicPartition :=
  { part with
      leader := 0
      replicas := updateLoop (fun _ => 0) part.replicas
      isr := updateLoop (fun _ => 0) part.isr
      offlineReplicas := updateLoop (fun _ => 0) part.offlineReplicas }

/-- The body of the topic loop, which changes the partitions in their place. -/
def metadataTopicInPlace (p : GoString) (t : MetadataResponseTopic) :
    Option MetadataResponseTopic :=
  match t.topic with
  | none => none
  | some n =>
      if !belongsToTenant p n then none
      else
        some { t with
          topic := stripOutPtr p t.topic
          partitions := updateLoop virtualPartitionInPlace t.partitions }

def metadataResponseOutInPlace (p advertisedHost : GoString) (advertisedPort : Int32)
    (spare : List MetadataResponseTopic) (resp : MetadataResponse) : MetadataResponse :=
  { resp with
      brokers := [{ nodeID := 0, host := advertisedHost, port := advertisedPort,
                    rack := resp.brokers.head?.bind (·.rack) }]
      controllerID := 0
      topics := filterLoop (metadataTopicInPlace p) (.ofList resp.topics spare) }

/-- The assignments to a partition make the partition of the model. -/
theorem virtualPartitionInPlace_eq : virtualPartitionInPlace = virtualPartition := by
  funext part
  simp only [virtualPartitionInPlace, virtualPartition, updateLoop_eq_map]

/-- And those to a topic its topic. -/
theorem metadataTopicInPlace_eq (p : GoString) :
    metadataTopicInPlace p = metadataTopicOut p := by
  funext t
  unfold metadataTopicInPlace metadataTopicOut
  cases htopic : t.topic with
  | none => rfl
  | some n =>
      simp only [updateLoop_eq_map, virtualPartitionInPlace_eq]
      cases belongsToTenant p n <;> simp

/-- The loop of `MetadataResponseOut` computes the filtered list, whatever spare cells there are. -/
theorem metadataResponseOutInPlace_eq (p advertisedHost : GoString) (advertisedPort : Int32)
    (spare : List MetadataResponseTopic) (resp : MetadataResponse) :
    metadataResponseOutInPlace p advertisedHost advertisedPort spare resp =
      metadataResponseOut p advertisedHost advertisedPort resp := by
  simp only [metadataResponseOutInPlace, metadataResponseOut, filterLoop_eq_filterMap,
    Slice.items_ofList, metadataTopicInPlace_eq]

/-! ### `ListGroupsResponseOut` and `DescribeConfigsResponseOut` -/

def listGroupsResponseOutInPlace (p : GoString) (spare : List ListGroupsResponseGroup)
    (resp : ListGroupsResponse) : ListGroupsResponse :=
  { resp with groups := filterLoop (listGroupsGroupOut p) (.ofList resp.groups spare) }

/-- So does the loop of `ListGroupsResponseOut`. -/
theorem listGroupsResponseOutInPlace_eq (p : GoString) (spare : List ListGroupsResponseGroup)
    (resp : ListGroupsResponse) :
    listGroupsResponseOutInPlace p spare resp = listGroupsResponseOut p resp := by
  simp only [listGroupsResponseOutInPlace, listGroupsResponseOut, filterLoop_eq_filterMap,
    Slice.items_ofList]

def describeConfigsResponseOutInPlace (p : GoString)
    (spare : List DescribeConfigsResponseResource) (resp : DescribeConfigsResponse) :
    DescribeConfigsResponse :=
  { resp with
      resources := filterLoop (describeConfigsResourceOut p) (.ofList resp.resources spare) }

/-- And the loop of `DescribeConfigsResponseOut`. -/
theorem describeConfigsResponseOutInPlace_eq (p : GoString)
    (spare : List DescribeConfigsResponseResource) (resp : DescribeConfigsResponse) :
    describeConfigsResponseOutInPlace p spare resp = describeConfigsResponseOut p resp := by
  simp only [describeConfigsResponseOutInPlace, describeConfigsResponseOut,
    filterLoop_eq_filterMap, Slice.items_ofList]

end Kroxy.Rewrite
