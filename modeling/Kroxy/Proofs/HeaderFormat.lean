import Kroxy.Kmsg.Formatter
import Kroxy.Proofs.HeaderBounds
import Kroxy.Proxy.Conn

/-!
# `Kroxy.Proofs.HeaderFormat`: the proxy and its peers on the headers of messages

The proxy has two tables: the versions it advertises and the versions it takes for flexible.
`kafkaFlexible_iff` compares the second with Kafka's own. They differ in one row, and in the
advertised range of that row in one version: DescribeConfigs v4.

`parse_formatRequest` reads a request header back. `headersAgree_iff` says for which APIs and
versions requests and responses have the header the other side expects.
-/

set_option autoImplicit false

namespace Kroxy.Proofs

open Kroxy.Go
open Kroxy.Lib
open Kroxy.Kmsg
open Kroxy.Protocol
open Kroxy.Upstream

/-! ### The two tables -/

/-- The version is in the range `handleApiVersions` advertises for the key. -/
def Advertised (apiKey apiVersion : Int16) : Prop :=
  ∃ row ∈ Proxy.advertisedVersions, row.apiKey = apiKey ∧ row.minVersion ≤ apiVersion ∧
    apiVersion ≤ row.maxVersion

/-- The tables agree on every key but one. -/
theorem kafkaFlexible_of_ne {apiKey : Int16} (h : apiKey ≠ describeConfigsKey)
    (apiVersion : Int16) :
    kafkaFlexible apiKey apiVersion = isFlexibleRequest apiKey apiVersion := by
  have hkafka : kafkaFlexibleSince =
      flexibleSince.take 22 ++ (describeConfigsKey, some 4) :: flexibleSince.drop 23 := by
    decide
  have hproxy : flexibleSince =
      flexibleSince.take 22 ++ (describeConfigsKey, none) :: flexibleSince.drop 23 := by
    decide
  have hlookup : kafkaFlexibleSince.lookup apiKey = flexibleSince.lookup apiKey := by
    have hbeq : (apiKey == describeConfigsKey) = false := by simpa using h
    rw [hkafka]
    conv => rhs; rw [hproxy]
    simp only [List.lookup_append, List.lookup_cons, hbeq]
  unfold kafkaFlexible isFlexibleRequest
  generalize kafkaFlexibleSince.lookup apiKey = found at hlookup ⊢
  subst hlookup
  rfl

/-- DescribeConfigs is flexible from version 4 on. -/
theorem kafkaFlexible_describeConfigs (apiVersion : Int16) :
    kafkaFlexible describeConfigsKey apiVersion = decide (apiVersion ≥ 4) := rfl

/-- The proxy's table does not have it. -/
theorem isFlexibleRequest_describeConfigs (apiVersion : Int16) :
    isFlexibleRequest describeConfigsKey apiVersion = false := rfl

/-- DescribeConfigs is advertised up to version 4. -/
theorem Advertised.describeConfigs {apiVersion : Int16}
    (h : Advertised describeConfigsKey apiVersion) : apiVersion ≤ 4 := by
  obtain ⟨row, hmem, hkey, -, hmax⟩ := h
  have hrow : ∀ row ∈ Proxy.advertisedVersions, row.apiKey = describeConfigsKey →
      row.maxVersion = 4 := by decide
  rw [hrow row hmem hkey] at hmax
  exact hmax

/-- On the advertised versions the tables differ at DescribeConfigs v4 only. -/
theorem kafkaFlexible_iff {apiKey apiVersion : Int16} (h : Advertised apiKey apiVersion) :
    kafkaFlexible apiKey apiVersion = isFlexibleRequest apiKey apiVersion ↔
      ¬ (apiKey = describeConfigsKey ∧ apiVersion = 4) := by
  by_cases hkey : apiKey = describeConfigsKey
  · subst hkey
    have hmax := h.describeConfigs
    rw [kafkaFlexible_describeConfigs, isFlexibleRequest_describeConfigs]
    simp only [decide_eq_false_iff_not, true_and]
    constructor
    · intro hlt heq
      rw [heq] at hlt
      exact hlt (by decide)
    · intro hne hge
      exact hne (Int16.le_antisymm hmax hge)
  · exact iff_of_true (kafkaFlexible_of_ne hkey apiVersion) (fun hcon => hkey hcon.1)

/-- What the proxy takes for flexible is flexible. -/
theorem kafkaFlexible_of_isFlexibleRequest {apiKey apiVersion : Int16}
    (h : isFlexibleRequest apiKey apiVersion = true) : kafkaFlexible apiKey apiVersion = true := by
  by_cases hkey : apiKey = describeConfigsKey
  · subst hkey
    rw [isFlexibleRequest_describeConfigs] at h
    cases h
  · rw [kafkaFlexible_of_ne hkey]
    exact h

/-- Tagged fields are in the request headers of the flexible versions, those of ApiVersions
included. -/
theorem requestHeaderVersion_iff (apiKey apiVersion : Int16) :
    requestHeaderVersion apiKey apiVersion ≥ 2 ↔ isFlexibleRequest apiKey apiVersion = true := by
  unfold requestHeaderVersion
  by_cases hkey : apiKey = apiVersionsKey
  · subst hkey
    have hflexible : isFlexibleRequest apiVersionsKey apiVersion = decide (apiVersion ≥ 3) := rfl
    rw [if_pos rfl, hflexible]
    by_cases hversion : apiVersion ≥ 3
    · simp only [hversion, if_true, decide_true, iff_true]
      decide
    · simp only [hversion, if_false, decide_false, Bool.false_eq_true, iff_false]
      decide
  · rw [if_neg hkey]
    cases isFlexibleRequest apiKey apiVersion <;> decide

/-- The same for response headers, with the exception of ApiVersions. -/
theorem responseHeaderVersion_iff (apiKey apiVersion : Int16) :
    responseHeaderVersion apiKey apiVersion ≥ 1 ↔
      apiKey ≠ apiVersionsKey ∧ isFlexibleRequest apiKey apiVersion = true := by
  unfold responseHeaderVersion
  by_cases hkey : apiKey = apiVersionsKey
  · simp only [hkey, if_true, ne_eq, not_true_eq_false, false_and, iff_false]
    decide
  · rw [if_neg hkey]
    cases isFlexibleRequest apiKey apiVersion with
    | false => simp
    | true =>
        simp only [hkey, if_true, ne_eq, not_false_eq_true, and_self, iff_true]
        decide

/-! ### Requests -/

/-- The eight bytes in front of the client id. -/
def fixedBytes (apiKey apiVersion : Int16) (correlationID : Int32) : Bytes :=
  appendInt16 apiKey ++ appendInt16 apiVersion ++ appendInt32 correlationID

/-- The fixed part has eight bytes. -/
theorem length_fixedBytes (apiKey apiVersion : Int16) (correlationID : Int32) :
    (fixedBytes apiKey apiVersion correlationID).length = 8 := rfl

section
variable (apiKey apiVersion : Int16) (correlationID : Int32) (rest : Bytes)

/-- It begins with the key, -/
theorem key_fixedBytes :
    (getBE16 (fixedBytes apiKey apiVersion correlationID ++ rest)).toInt16 = apiKey := by
  rw [fixedBytes, List.append_assoc, List.append_assoc, getBE16_appendInt16]

/-- then the version -/
theorem version_fixedBytes :
    (getBE16 ((fixedBytes apiKey apiVersion correlationID ++ rest).drop 2)).toInt16 =
      apiVersion := by
  rw [fixedBytes, List.append_assoc, List.append_assoc,
    List.drop_left' (length_appendInt16 apiKey), getBE16_appendInt16]

/-- and the correlation id. -/
theorem correlationID_fixedBytes :
    (getBE32 ((fixedBytes apiKey apiVersion correlationID ++ rest).drop 4)).toInt32 =
      correlationID := by
  have hlen : (appendInt16 apiKey ++ appendInt16 apiVersion).length = 4 := rfl
  rw [fixedBytes, List.append_assoc, List.drop_left' hlen, getBE32_appendInt32]

end

/-- A nullable string has two bytes for its length. -/
theorem length_appendNullableString (clientID : Option GoString) :
    (appendNullableString clientID).length = 2 + (clientID.getD []).length := by
  cases clientID with
  | none => rfl
  | some s => simp [appendNullableString, appendString]

/-- The client id is the string its length field announces. A negative length and zero both
announce the empty string. -/
theorem readClientID_eq {frame s rest : Bytes} (hten : 10 ≤ frame.length)
    (hdrop : frame.drop 10 = s ++ rest)
    (hclen : (getBE16 (frame.drop 8)).toInt16.toNatClampNeg = s.length) :
    readClientID frame = .ok (s, Int64.ofNat (10 + s.length)) := by
  have htotal : frame.length = 10 + s.length + rest.length := by
    have hlen := congrArg List.length hdrop
    rw [List.length_drop, List.length_append] at hlen
    omega
  unfold readClientID
  rw [if_neg (Nat.not_lt.mpr hten)]
  generalize (getBE16 (frame.drop 8)).toInt16 = clen at hclen ⊢
  by_cases hpos : clen > 0
  · have hwhole : ¬ frame.length < 10 + s.length := by omega
    simp only [hpos, if_true, hclen, hwhole, if_false, hdrop, List.take_left]
  · -- The length is not looked at any further.
    have hnil : s = [] := by
      rw [← List.length_eq_zero_iff, ← hclen]
      exact Int.toNat_eq_zero.mpr (Int16.le_iff_toInt_le.mp (Int16.not_lt.mp hpos))
    simp only [hpos, if_false, hnil]
    rfl

/-- A client id reads back, a null one as the empty string. -/
theorem readClientID_format (apiKey apiVersion : Int16) (correlationID : Int32)
    {clientID : Option GoString} (hid : ∀ s ∈ clientID, s.length ≤ 32767) (rest : Bytes) :
    readClientID (fixedBytes apiKey apiVersion correlationID ++
        (appendNullableString clientID ++ rest)) =
      .ok (clientID.getD [], Int64.ofNat (10 + (clientID.getD []).length)) := by
  have hclen : getBE16 ((fixedBytes apiKey apiVersion correlationID ++
      (appendNullableString clientID ++ rest)).drop 8) =
      getBE16 (appendNullableString clientID ++ rest) := by
    rw [List.drop_left' (length_fixedBytes _ _ _)]
  have hten : 10 ≤ (fixedBytes apiKey apiVersion correlationID ++
      (appendNullableString clientID ++ rest)).length := by
    rw [List.length_append, List.length_append, length_fixedBytes, length_appendNullableString]
    omega
  cases clientID with
  | none =>
      refine readClientID_eq hten rfl ?_
      rw [hclen, appendNullableString, getBE16_appendInt16]
      rfl
  | some s =>
      refine readClientID_eq hten rfl ?_
      rw [hclen, appendNullableString, appendString, List.append_assoc, getBE16_appendInt16]
      exact Int16.toNatClampNeg_ofNat_of_lt (Nat.lt_succ_of_le (hid s rfl))

section
variable (apiKey apiVersion : Int16) (correlationID : Int32) (clientID : Option GoString)
  (body : Bytes)

/-- The parts of a formatted request. -/
theorem formatRequest_eq :
    formatRequest apiKey apiVersion correlationID clientID body =
      fixedBytes apiKey apiVersion correlationID ++ (appendNullableString clientID ++
        ((if kafkaFlexible apiKey apiVersion then [0] else []) ++ body)) := by
  simp only [formatRequest, fixedBytes, List.append_assoc]

/-- What is behind the client id. -/
theorem drop_formatRequest :
    (formatRequest apiKey apiVersion correlationID clientID body).drop
        (10 + (clientID.getD []).length) =
      (if kafkaFlexible apiKey apiVersion then [0] else []) ++ body := by
  have hlen : (fixedBytes apiKey apiVersion correlationID ++
      appendNullableString clientID).length = 10 + (clientID.getD []).length := by
    rw [List.length_append, length_fixedBytes, length_appendNullableString]
    omega
  rw [formatRequest_eq, ← List.append_assoc, List.drop_left' hlen]

/-- Their lengths add up. -/
theorem le_length_formatRequest :
    10 + (clientID.getD []).length +
        (if kafkaFlexible apiKey apiVersion then 1 else 0) + body.length =
      (formatRequest apiKey apiVersion correlationID clientID body).length := by
  rw [formatRequest_eq]
  simp only [List.length_append, length_fixedBytes, length_appendNullableString]
  split <;> simp <;> omega

variable {clientID} (hid : ∀ s ∈ clientID, s.length ≤ 32767)
include hid

/-- The header of a formatted request reads back. It ends behind the tagged-field byte when
the proxy takes the version for flexible, and behind the client id otherwise. -/
theorem parse_formatRequest
    (hlen : IntLength (formatRequest apiKey apiVersion correlationID clientID body)) :
    parseRequestHeader (formatRequest apiKey apiVersion correlationID clientID body) =
      .ok { apiKey, apiVersion, correlationID, clientID := clientID.getD [],
            headerVersion := requestHeaderVersion apiKey apiVersion,
            headerSize := Int64.ofNat (10 + (clientID.getD []).length +
              if isFlexibleRequest apiKey apiVersion then 1 else 0) } := by
  have htotal := le_length_formatRequest apiKey apiVersion correlationID clientID body
  have hread := readClientID_format apiKey apiVersion correlationID hid
    ((if kafkaFlexible apiKey apiVersion then [0] else []) ++ body)
  rw [← formatRequest_eq] at hread
  rw [parseRequestHeader_eq (by omega), hread, ok_bind]
  have hfixed : ∀ size, fixedHeader (formatRequest apiKey apiVersion correlationID clientID body)
      (clientID.getD []) size =
        { apiKey, apiVersion, correlationID, clientID := clientID.getD [],
          headerVersion := requestHeaderVersion apiKey apiVersion, headerSize := size } := by
    intro size
    rw [formatRequest_eq]
    simp only [fixedHeader, key_fixedBytes, version_fixedBytes, correlationID_fixedBytes]
  have hversion : requestHeaderVersion
      (getBE16 (formatRequest apiKey apiVersion correlationID clientID body)).toInt16
      (getBE16 ((formatRequest apiKey apiVersion correlationID clientID body).drop 2)).toInt16 =
        requestHeaderVersion apiKey apiVersion := by
    rw [formatRequest_eq, key_fixedBytes, version_fixedBytes]
  rw [hversion]
  cases hflexible : isFlexibleRequest apiKey apiVersion with
  | true =>
      -- The count of the tagged fields is the one byte 0.
      have hkafka := kafkaFlexible_of_isFlexibleRequest hflexible
      have hdrop := drop_formatRequest apiKey apiVersion correlationID clientID body
      rw [hkafka, if_pos rfl] at hdrop
      have hcount : readTaggedFields (formatRequest apiKey apiVersion correlationID clientID body)
          (Int64.ofNat (10 + (clientID.getD []).length)) =
            .ok (Int64.ofNat (10 + (clientID.getD []).length + 1)) := by
        rw [readTaggedFields, uvarintAt_ofNat hlen (by omega), hdrop]
        rfl
      rw [if_pos ((requestHeaderVersion_iff _ _).mpr hflexible), hcount]
      exact congrArg Except.ok (hfixed _)
  | false =>
      have hplain : ¬ requestHeaderVersion apiKey apiVersion ≥ 2 := by
        rw [requestHeaderVersion_iff, hflexible]
        exact Bool.false_ne_true
      rw [if_neg hplain]
      exact congrArg Except.ok (hfixed _)

end

/-! ### Requests and responses -/

/-- The two sides agree on the header of a request and of its response. The request is
formatted by a client and parsed by the proxy. A response is encoded by the proxy for its
client, and the header of the broker's is skipped by `RoundTripRequest`, whatever message
with this key and version it was sent for. -/
structure HeadersAgree (apiKey apiVersion : Int16) (correlationID : Int32)
    (clientID : Option GoString) (body respBody : Bytes) : Prop where
  request : ∃ hdr,
    parseRequestHeader (formatRequest apiKey apiVersion correlationID clientID body) = .ok hdr ∧
      hdr.apiKey = apiKey ∧ hdr.apiVersion = apiVersion ∧ hdr.correlationID = correlationID ∧
      hdr.clientID = clientID.getD [] ∧
      sliceFrom (formatRequest apiKey apiVersion correlationID clientID body) hdr.headerSize =
        .ok body
  encode : encodeResponse respBody correlationID apiKey apiVersion =
    formatResponse apiKey apiVersion correlationID respBody
  skip : ∀ (msg : Message) (id : GoString) (c c' : Conn), msg.key = apiKey →
    msg.version = apiVersion →
    timedExchange "RoundTripRequest" "short response" (fun cid => .formatted msg cid id) c =
      .ok (formatResponse apiKey apiVersion correlationID respBody) c' →
    roundTripRequest msg id c = .ok respBody c'

/-- With the same idea of what is flexible, responses have the same header. -/
theorem responseHeader_eq {apiKey apiVersion : Int16}
    (h : kafkaFlexible apiKey apiVersion = isFlexibleRequest apiKey apiVersion) :
    (if apiKey ≠ apiVersionsKey ∧ kafkaFlexible apiKey apiVersion then [0] else []) =
      (if responseHeaderVersion apiKey apiVersion ≥ 1 then [0] else ([] : Bytes)) := by
  rw [h]
  simp only [responseHeaderVersion_iff]

/-- The skip takes off what the broker put in front of the body. -/
theorem afterHeader_formatResponse {apiKey apiVersion : Int16}
    (h : kafkaFlexible apiKey apiVersion = isFlexibleRequest apiKey apiVersion)
    (correlationID : Int32) (respBody : Bytes) (c : Conn) :
    afterHeader apiKey apiVersion
        (formatResponse apiKey apiVersion correlationID respBody) c = .ok respBody c := by
  rw [formatResponse, responseHeader_eq h]
  unfold afterHeader headerLength
  by_cases hv : responseHeaderVersion apiKey apiVersion ≥ 1
  · simp only [hv, if_true]
    rfl
  · simp only [hv, if_false]
    rfl

/-- The proxy and its peers agree on the headers of every advertised API and version except
DescribeConfigs v4. -/
theorem headersAgree_iff {apiKey apiVersion : Int16} (hadv : Advertised apiKey apiVersion)
    (correlationID : Int32) {clientID : Option GoString}
    (hid : ∀ s ∈ clientID, s.length ≤ 32767) (body respBody : Bytes)
    (hlen : IntLength (formatRequest apiKey apiVersion correlationID clientID body)) :
    HeadersAgree apiKey apiVersion correlationID clientID body respBody ↔
      ¬ (apiKey = describeConfigsKey ∧ apiVersion = 4) := by
  have hparse := parse_formatRequest apiKey apiVersion correlationID body hid hlen
  have hdrop := drop_formatRequest apiKey apiVersion correlationID clientID body
  have htotal := le_length_formatRequest apiKey apiVersion correlationID clientID body
  rw [← kafkaFlexible_iff hadv]
  constructor
  · intro h
    obtain ⟨hdr, hok, -, -, -, -, hslice⟩ := h.request
    rw [hparse] at hok
    cases hok
    by_contra hne
    -- Kafka's header has a byte more than the proxy's, and it stays in front of the body.
    have hproxy : isFlexibleRequest apiKey apiVersion = false := by
      cases hflexible : isFlexibleRequest apiKey apiVersion with
      | false => rfl
      | true => exact absurd (by rw [kafkaFlexible_of_isFlexibleRequest hflexible, hflexible]) hne
    have hkafka : kafkaFlexible apiKey apiVersion = true := by
      cases hflexible : kafkaFlexible apiKey apiVersion with
      | true => rfl
      | false => exact absurd (by rw [hflexible, hproxy]) hne
    rw [hproxy] at hslice
    rw [hkafka, if_pos rfl] at hdrop
    simp only [Bool.false_eq_true, if_false, Nat.add_zero] at hslice
    rw [sliceFrom_ofNat hlen (by omega), hdrop] at hslice
    have hcons : [0] ++ body = body := by
      injection hslice
    have := congrArg List.length hcons
    simp at this
  · intro h
    refine ⟨⟨_, hparse, rfl, rfl, rfl, rfl, ?_⟩, ?_, ?_⟩
    · rw [← h]
      rw [sliceFrom_ofNat hlen (by omega), ← List.drop_drop, hdrop]
      cases kafkaFlexible apiKey apiVersion <;> rfl
    · rw [encodeResponse, appendResponseHeader, formatResponse, responseHeader_eq h]
      rfl
    · intro msg id c c' hkey hversion hexchange
      rw [roundTripRequest, bind_of_ok hexchange, hkey, hversion]
      exact afterHeader_formatResponse h correlationID respBody c'

/-- A Metadata v9 request, flexible for both sides. -/
theorem headersAgree_iff_metadata :
    HeadersAgree metadataKey 9 7 (some (goString "client")) [1, 0] [2, 3] := by
  have hadv : Advertised metadataKey 9 := ⟨⟨metadataKey, 0, 9⟩, by decide, by decide⟩
  have hid : ∀ s ∈ some (goString "client"), s.length ≤ 32767 := by
    intro s hs
    cases hs
    decide
  exact (headersAgree_iff hadv 7 hid [1, 0] [2, 3]
    (show _ < 2 ^ 63 by decide)).mpr (by decide)

/-- A DescribeConfigs v4 request. The proxy takes the tagged-field byte of its header for the
first byte of the body, and leaves that byte out of the header of the response. -/
theorem describeConfigs_headers_differ :
    Advertised describeConfigsKey 4 ∧
      (parseRequestHeader (formatRequest describeConfigsKey 4 7 none [1, 0])).map
        RequestHeader.headerSize = .ok 10 ∧
      (formatRequest describeConfigsKey 4 7 none [1, 0]).drop 10 = [0, 1, 0] ∧
      encodeResponse [2, 3] 7 describeConfigsKey 4 ≠
        formatResponse describeConfigsKey 4 7 [2, 3] ∧
      ¬ HeadersAgree describeConfigsKey 4 7 none [1, 0] [2, 3] := by
  have hencode : encodeResponse [2, 3] 7 describeConfigsKey 4 ≠
      formatResponse describeConfigsKey 4 7 [2, 3] := by decide
  refine ⟨⟨⟨describeConfigsKey, 0, 4⟩, by decide, by decide⟩, by decide, by decide, hencode, ?_⟩
  intro h
  exact hencode h.encode

end Kroxy.Proofs
