import Invetrixa.Common.Response

/-!
# What responses lose

No sensitive key is sent. The other leaves of a payload are sent as they are, but for decimals,
which become objects, for what is under `__proto__`, and for the fields that stand beside a
message.

## Main results

- `loses_nothing_iff` — exactly which values lose nothing but secrets
- `received_loses_fields` — what is said of a receipt of stock is lost but for the message
-/

namespace Invetrixa

open Trees TransformInterceptor SanitizeResponseInterceptor

/-- The data of a value, or the value when it has none. -/
def payload : JsTree → JsTree
  | .object fields =>
    if isUndefined (property "data" fields) then .object fields else property "data" fields
  | data => data

/-- A leaf of the payload's JSON, at a path without sensitive keys. -/
structure PayloadLeaf (formats : Formats) (data : JsTree) (path : List (Step String))
    (leaf : Json) : Prop where
  there : (stringify formats (payload data)).bind (Tree.sub? path) = some leaf
  isEnd : leaf.IsEnd
  isVisible : Tree.Kept (· ∈ sensitiveFields) path

/-- Where a leaf of the payload is in the body: in its data, or in its message when the value has
a message and neither data nor meta. -/
def destination : JsTree → List (Step String) → List (Step String)
  | .object fields, .field key :: path =>
    if hasOnlyMessage fields ∧ key = "message" then .field key :: path
    else .field "data" :: .field key :: path
  | _, path => .field "data" :: path

/-- No sensitive key is sent, and every other leaf is. -/
structure LosesNothing (formats : Formats) (statusCode : ℕ) (data : JsTree) : Prop where
  secrets : ∀ body ∈ respond formats statusCode data, body.Keys (· ∉ sensitiveFields)
  leaves : ∀ path leaf, PayloadLeaf formats data path leaf →
    (respond formats statusCode data).bind (Tree.sub? (destination data path)) = some leaf

/-- A leaf of an object that has a message and neither data nor meta: it is in the message, which
is taken for true and has no date there. -/
structure InMessage (fields : List (String × JsTree)) (path : List (Step String)) : Prop where
  head : path.head? = some (.field "message")
  message : isTruthy (property "message" fields)
  noDate : ∀ time, Tree.sub? path (.object fields) ≠ some (.leaf (.date time))

/-- A leaf that is sent as it is. -/
structure LeafPasses (data : JsTree) (path : List (Step String)) : Prop where
  noPrototype : .field "__proto__" ∉ path
  noDecimal : ∀ d, Tree.sub? path (payload data) ≠ some (.leaf (.decimal d))
  inMessage : ∀ fields, data = .object fields → hasOnlyMessage fields → InMessage fields path

/-- The leaves of the payload, but for secrets, are sent as they are. -/
def LeavesPass (formats : Formats) (data : JsTree) : Prop :=
  ∀ path leaf, PayloadLeaf formats data path leaf → LeafPasses data path

section Rewrites

variable {formats : Formats} {t : JsTree} {path : List (Step String)} {leaf : Json}

theorem PrismaDecimal.objects_entries {P : List String → Prop} (hkeys : P ["s", "e", "d"])
    (d : PrismaDecimal) : d.entries.Objects P := by
  refine Tree.objects_object_iff.mpr ⟨hkeys, ?_⟩
  intro x hx
  simp only [List.mem_cons, List.not_mem_nil, or_false] at hx
  rcases hx with rfl | rfl | rfl
  · exact trivial
  · exact trivial
  · refine Tree.objects_array_iff.mpr fun digit hdigit => ?_
    obtain ⟨_, _, rfl⟩ := List.mem_map.mp hdigit
    exact trivial

theorem distinct_serializeLeaf (formats : Formats) (a : JsLeaf) :
    (serializeLeaf formats a).Distinct := by
  cases a with
  | decimal d => exact d.objects_entries (by decide)
  | _ => exact trivial

theorem objects_sanitizeLeaf {P : List String → Prop} (hkeys : P ["s", "e", "d"]) (hnil : P [])
    (a : JsLeaf) : (sanitizeLeaf a).Objects P := by
  cases a with
  | decimal d => exact d.objects_entries hkeys
  | date time => exact Tree.objects_object_iff.mpr ⟨hnil, nofun⟩
  | _ => exact trivial

theorem distinct_sanitizeLeaf (a : JsLeaf) : (sanitizeLeaf a).Distinct :=
  objects_sanitizeLeaf (by decide) List.nodup_nil a

theorem distinct_sanitize (h : t.Distinct) : (sanitize t).Distinct :=
  Tree.distinct_rewrite distinct_sanitizeLeaf h

/-- Both interceptors together. -/
theorem sanitize_serializeDates (formats : Formats) (t : JsTree) :
    sanitize (serializeDates formats t) =
      t.rewrite (fun key => IsPrototype key ∨ key ∈ sensitiveFields ∨ IsPrototype key)
        fun a => sanitize (serializeLeaf formats a) :=
  Tree.rewrite_rewrite _ _ t

theorem stringifyLeaf_eq_none_iff {a : JsLeaf} :
    stringifyLeaf formats a = none ↔ a = .undefined := by
  cases a with
  | undefined => exact iff_of_true rfl rfl
  | _ => exact iff_of_false nofun nofun

/-- An object does not stand for a leaf. -/
theorem collectAt_object_ne {fields : List (String × JsTree)} {b : JsonLeaf} :
    Tree.collectAt (stringifyLeaf formats) .null path (.object fields) ≠ some (.leaf b) := by
  rw [Tree.collectAt_of_isSome rfl]
  nofun

/-- The JSON of the leaf at a path. -/
theorem collectAt_leaf (ht : t.Distinct)
    (h : (stringify formats t).bind (Tree.sub? path) = some leaf) (a : JsLeaf)
    (ha : Tree.sub? path t = some (.leaf a)) :
    Tree.collectAt (stringifyLeaf formats) .null path (.leaf a) = some leaf := by
  rw [stringify, Tree.sub?_collect path ht, ha] at h
  exact h

/-- A leaf of the JSON of a value is one after sensitive fields and prototypes are dropped and the
leaves rewritten, exactly if it is not under `__proto__` and has the JSON of what stands for it. -/
theorem stringify_rewrite_iff {drop : String → Prop} [DecidablePred drop] {f : JsLeaf → JsTree}
    (hdrop : ∀ key, drop key ↔ key ∈ sensitiveFields ∨ IsPrototype key)
    (hdistinct : ∀ a, (f a).Distinct) (hundefined : f .undefined = .leaf .undefined)
    (ht : t.Distinct) (h : (stringify formats t).bind (Tree.sub? path) = some leaf)
    (hend : leaf.IsEnd) (hvisible : Tree.Kept (· ∈ sensitiveFields) path) :
    (stringify formats (t.rewrite drop f)).bind (Tree.sub? path) = some leaf ↔
      .field "__proto__" ∉ path ∧ ∀ a, Tree.sub? path t = some (.leaf a) →
        Tree.collectAt (stringifyLeaf formats) .null path (f a) = some leaf := by
  rw [stringify, Tree.sub?_collect_rewrite_iff hdistinct ?_ ht h hend]
  · refine and_congr_left fun _ => ⟨fun hkept hmem => ?_, fun hnot key hkey hdropped => ?_⟩
    · exact hkept _ hmem ((hdrop _).mpr (.inr rfl))
    · rcases (hdrop key).mp hdropped with hsensitive | hproto
      · exact hvisible key hkey hsensitive
      · exact hnot (hproto ▸ hkey)
  · intro a ha
    rw [stringifyLeaf_eq_none_iff.mp ha, hundefined]
    rfl

/-- Nothing stands for a leaf that is an object. -/
theorem collectAt_object_absurd {fields : List (String × JsTree)} {a : JsLeaf} {b : JsonLeaf}
    (hleaf : Tree.collectAt (stringifyLeaf formats) .null path (.leaf a) = some leaf)
    (ha : stringifyLeaf formats a = some b)
    (h : Tree.collectAt (stringifyLeaf formats) .null path (.object fields) = some leaf) :
    False := by
  rw [Tree.collectAt_of_isSome (by rw [Tree.collect, ha]; rfl), Tree.collect, ha] at hleaf
  exact collectAt_object_ne (h.trans hleaf.symm)

/-- A leaf of the JSON of a value is one after both interceptors, exactly if it is no decimal and
not under `__proto__`. -/
theorem stringify_serialized_iff (ht : t.Distinct)
    (h : (stringify formats t).bind (Tree.sub? path) = some leaf) (hend : leaf.IsEnd)
    (hvisible : Tree.Kept (· ∈ sensitiveFields) path) :
    (stringify formats (sanitize (serializeDates formats t))).bind (Tree.sub? path) = some leaf ↔
      .field "__proto__" ∉ path ∧ ∀ d, Tree.sub? path t ≠ some (.leaf (.decimal d)) := by
  have hdistinct : ∀ a, (sanitize (serializeLeaf formats a)).Distinct := fun a =>
    distinct_sanitize (distinct_serializeLeaf formats a)
  have hat := collectAt_leaf ht h
  have hdrop : ∀ key, (IsPrototype key ∨ key ∈ sensitiveFields ∨ IsPrototype key) ↔
      key ∈ sensitiveFields ∨ IsPrototype key := fun key => by tauto
  rw [sanitize_serializeDates, stringify_rewrite_iff hdrop hdistinct rfl ht h hend hvisible]
  refine and_congr_right fun _ => ⟨fun hall d hd => ?_, fun hnone a ha => ?_⟩
  · -- the digits of a decimal are not its text
    exact collectAt_object_absurd (hat _ hd) rfl (hall _ hd)
  · cases a with
    | decimal d => exact absurd ha (hnone d)
    | date time => exact hat (.date time) ha
    | _ => exact hat _ ha

/-- A leaf of the JSON of a value is one after the second interceptor alone, exactly if it is
neither date nor decimal and not under `__proto__`. -/
theorem stringify_sanitized_iff (ht : t.Distinct)
    (h : (stringify formats t).bind (Tree.sub? path) = some leaf) (hend : leaf.IsEnd)
    (hvisible : Tree.Kept (· ∈ sensitiveFields) path) :
    (stringify formats (sanitize t)).bind (Tree.sub? path) = some leaf ↔
      .field "__proto__" ∉ path ∧ (∀ d, Tree.sub? path t ≠ some (.leaf (.decimal d))) ∧
        ∀ time, Tree.sub? path t ≠ some (.leaf (.date time)) := by
  have hat := collectAt_leaf ht h
  rw [sanitize,
    stringify_rewrite_iff (fun _ => Iff.rfl) distinct_sanitizeLeaf rfl ht h hend hvisible]
  refine and_congr_right fun _ =>
    ⟨fun hall => ⟨fun d hd => ?_, fun time htime => ?_⟩, fun hnone a ha => ?_⟩
  · exact collectAt_object_absurd (hat _ hd) rfl (hall _ hd)
  · -- a date has no fields of its own
    exact collectAt_object_absurd (hat _ htime) rfl (hall _ htime)
  · cases a with
    | decimal d => exact absurd ha (hnone.1 d)
    | date time => exact absurd ha (hnone.2 time)
    | _ => exact hat _ ha

end Rewrites

section Envelope

variable {formats : Formats} {statusCode : ℕ} {data : JsTree} {path : List (Step String)}
  {leaf : Json}

theorem nodup_envelope (statusCode : ℕ) (message : JsTree) (meta? : Option JsTree)
    (data : JsTree) : ((envelope statusCode message meta? data).map Prod.fst).Nodup := by
  cases meta? with
  | none => exact (by decide : ["statusCode", "success", "message", "data"].Nodup)
  | some value => exact (by decide : ["statusCode", "success", "message", "meta", "data"].Nodup)

theorem field?_data_envelope (statusCode : ℕ) (message : JsTree) (meta? : Option JsTree)
    (data : JsTree) : Tree.field? "data" (envelope statusCode message meta? data) = some data := by
  cases meta? with
  | none => rfl
  | some value => rfl

theorem field?_message_envelope (statusCode : ℕ) (message : JsTree) (meta? : Option JsTree)
    (data : JsTree) :
    Tree.field? "message" (envelope statusCode message meta? data) = some message := by
  cases meta? with
  | none => rfl
  | some value => rfl

/-- What is sent in a field of the envelope. -/
theorem sub?_envelope {fields : List (String × JsTree)} (hfields : (fields.map Prod.fst).Nodup)
    {key : String} (hkey : key ∉ sensitiveFields) (hproto : ¬IsPrototype key) {value : JsTree}
    (hvalue : Tree.field? key fields = some value) :
    (stringify formats (sanitize (.object fields))).bind (Tree.sub? (.field key :: path)) =
      (stringify formats (sanitize value)).bind (Tree.sub? path) := by
  have hkeys : ((Tree.rewriteFields (fun key => key ∈ sensitiveFields ∨ IsPrototype key)
      sanitizeLeaf fields).map Prod.fst).Nodup := by
    rw [Tree.map_fst_rewriteFields]
    exact hfields.filter _
  rw [sanitize, Tree.rewrite, stringify, Tree.collect, Option.bind_some, Tree.sub?,
    Tree.field?_collectFields key hkeys, Tree.field?_rewriteFields, hvalue,
    if_neg (not_or.mpr ⟨hkey, hproto⟩)]
  rfl

/-- With a message and neither data nor meta, the data is null. -/
theorem intercept_onlyMessage (formats : Formats) (statusCode : ℕ)
    {fields : List (String × JsTree)} (h : hasOnlyMessage fields) :
    ∃ meta?, intercept formats statusCode (.object fields) =
      envelope statusCode (messageOr fields) meta? (.leaf .null) := by
  have hmessage : hasKey "message" fields = true := by
    simp only [hasOnlyMessage, Bool.and_eq_true] at h
    exact h.1.1
  simp only [intercept, hmessage, Bool.true_or, if_true, h]
  exact ⟨_, rfl⟩

/-- The payload of an object without data is the object. -/
theorem payload_of_hasKey {fields : List (String × JsTree)} (h : hasKey "data" fields = false) :
    payload (.object fields) = .object fields := by
  have hdata : "data" ∉ fields.map Prod.fst := by
    intro hmem
    rw [hasKey, List.contains_iff_mem.mpr hmem] at h
    cases h
  rw [payload, property, Tree.field?_eq_none hdata]
  rfl

/-- Otherwise the data is the payload, with its dates serialized. -/
theorem intercept_payload (formats : Formats) (statusCode : ℕ) {data : JsTree}
    (h : ∀ fields, data = .object fields → hasOnlyMessage fields = false) :
    ∃ message meta?, intercept formats statusCode data =
      envelope statusCode message meta? (serializeDates formats (payload data)) := by
  cases data with
  | leaf a => exact ⟨_, _, rfl⟩
  | array items => exact ⟨_, _, rfl⟩
  | object fields =>
    simp only [intercept]
    split
    · simp only [h fields rfl, Bool.false_eq_true, if_false]
      exact ⟨_, _, rfl⟩
    · next hnone =>
      -- no key of an envelope, so that the payload is the whole object
      have hdata : hasKey "data" fields = false :=
        Bool.eq_false_iff.mpr fun hkey => hnone (by rw [hkey, Bool.or_true, Bool.true_or])
      have hpayload := payload_of_hasKey hdata
      rw [hpayload]
      exact ⟨_, _, rfl⟩

/-- The payload of an object that has a message and neither data nor meta is the object. -/
theorem payload_onlyMessage {fields : List (String × JsTree)} (h : hasOnlyMessage fields) :
    payload (.object fields) = .object fields := by
  simp only [hasOnlyMessage, Bool.and_eq_true, Bool.not_eq_true'] at h
  exact payload_of_hasKey h.1.2

theorem payload_distinct (h : data.Distinct) : (payload data).Distinct := by
  cases data with
  | leaf a => exact h
  | array items => exact h
  | object fields =>
    rw [payload]
    split
    · exact h
    · rw [property]
      cases hfield : Tree.field? "data" fields with
      | none => exact trivial
      | some value => exact (Tree.objects_object_iff.mp h).2 _ (Tree.mem_of_field? hfield)

/-- A leaf of a payload that is sent as data. -/
theorem leaf_sent_iff (hdata : data.Distinct)
    (hmessage : ∀ fields, data = .object fields → hasOnlyMessage fields = false)
    (h : PayloadLeaf formats data path leaf) :
    (respond formats statusCode data).bind (Tree.sub? (destination data path)) = some leaf ↔
      LeafPasses data path := by
  obtain ⟨message, meta?, hintercept⟩ := intercept_payload formats statusCode hmessage
  have hdestination : destination data path = .field "data" :: path := by
    cases data with
    | leaf a => rfl
    | array items => rfl
    | object fields =>
      cases path with
      | nil => rfl
      | cons step path =>
        cases step with
        | item index => rfl
        | field key =>
          refine if_neg fun hcond => ?_
          rw [hmessage fields rfl] at hcond
          cases hcond.1
  rw [respond, hintercept, hdestination,
    sub?_envelope (nodup_envelope _ _ _ _) (by decide) (by decide) (field?_data_envelope _ _ _ _),
    stringify_serialized_iff (payload_distinct hdata) h.there h.isEnd h.isVisible]
  constructor
  · rintro ⟨hproto, hdecimal⟩
    refine ⟨hproto, hdecimal, fun fields heq honly => ?_⟩
    rw [hmessage fields heq] at honly
    cases honly
  · exact fun hpasses => ⟨hpasses.noPrototype, hpasses.noDecimal⟩

/-- Without a message that is taken for true, none of it is sent. -/
theorem not_sent_of_falsy {value : JsTree} (hfalsy : isTruthy value = false)
    (h : (stringify formats value).bind (Tree.sub? path) = some leaf) :
    (stringify formats (sanitize (.leaf (.string "Success")))).bind (Tree.sub? path) ≠
      some leaf := by
  cases path with
  | cons step path =>
    rw [show stringify formats (sanitize (.leaf (.string "Success"))) =
      some (.leaf (.string "Success")) from rfl, Option.bind_some, Tree.sub?_leaf_cons]
    nofun
  | nil =>
    rw [show Tree.sub? ([] : List (Step String)) = (some : Json → Option Json) from rfl,
      Option.bind_fun_some] at h ⊢
    rw [← h, stringify]
    intro heq
    cases value with
    | array items => cases hfalsy
    | object fields => cases hfalsy
    | leaf a =>
      cases a with
      | string text =>
        have htext : text = "" := by simpa [isTruthy] using hfalsy
        subst htext
        exact absurd (JsonLeaf.string.inj (Tree.leaf.inj (Option.some.inj heq))) (by decide)
      | date time => cases hfalsy
      | decimal d => cases hfalsy
      | _ => cases heq

/-- A leaf of an object that has a message and neither data nor meta. -/
theorem leaf_sent_onlyMessage_iff {fields : List (String × JsTree)}
    (hfields : (Tree.object fields : JsTree).Distinct) (honly : hasOnlyMessage fields)
    (h : PayloadLeaf formats (.object fields) path leaf) :
    (respond formats statusCode (.object fields)).bind
        (Tree.sub? (destination (.object fields) path)) = some leaf ↔
      LeafPasses (.object fields) path := by
  obtain ⟨meta?, hintercept⟩ := intercept_onlyMessage formats statusCode honly
  have hthere := h.there
  rw [payload_onlyMessage honly, stringify, Tree.collect, Option.bind_some] at hthere
  -- the data of the envelope is null, so nothing can be found below it
  have hsent : ∀ path', (respond formats statusCode (.object fields)).bind
      (Tree.sub? (.field "data" :: path')) = Tree.sub? path' (.leaf .null : Json) := by
    intro path'
    rw [respond, hintercept, sub?_envelope (nodup_envelope _ _ _ _) (by decide) (by decide)
      (field?_data_envelope _ _ _ _)]
    rfl
  cases path with
  | nil =>
    have hdestination : destination (.object fields) [] = [.field "data"] := rfl
    rw [← Option.some.inj hthere, hdestination, hsent]
    constructor
    · intro hfound
      cases hfound
    · intro hpasses
      cases (hpasses.inMessage fields rfl honly).head
  | cons step path =>
    cases step with
    | item index => cases hthere
    | field key =>
      by_cases hkey : key = "message"
      · subst hkey
        have hdestination : destination (.object fields) (.field "message" :: path) =
            .field "message" :: path := if_pos ⟨honly, rfl⟩
        obtain ⟨hself, hparts⟩ := Tree.objects_object_iff.mp hfields
        rw [Tree.sub?, Tree.field?_collectFields _ hself] at hthere
        obtain ⟨u, hu, hleaf⟩ := Option.bind_eq_some_iff.mp hthere
        obtain ⟨value, hvalue, hu⟩ := Option.bind_eq_some_iff.mp hu
        have hproperty : property "message" fields = value := by
          rw [property, hvalue, Option.getD_some]
        have hvalueAt : (stringify formats value).bind (Tree.sub? path) = some leaf := by
          rw [stringify, hu]
          exact hleaf
        have hsub : Tree.sub? (.field "message" :: path) (.object fields) =
            Tree.sub? path value := by
          rw [Tree.sub?, hvalue, Option.bind_some]
        have hvisible : Tree.Kept (· ∈ sensitiveFields) path := fun key hkey =>
          h.isVisible key (.tail _ hkey)
        rw [hdestination, respond, hintercept, sub?_envelope (nodup_envelope _ _ _ _) (by decide)
          (by decide) (field?_message_envelope _ _ _ _), messageOr, hproperty]
        -- a falsy message gives way to the default one
        by_cases htruthy : isTruthy value
        · rw [if_pos htruthy, stringify_sanitized_iff
            (hparts _ (Tree.mem_of_field? hvalue)) hvalueAt h.isEnd hvisible]
          constructor
          · rintro ⟨hproto, hdecimal, hdate⟩
            refine ⟨?_, ?_, fun fields' heq _ => ?_⟩
            · simpa using hproto
            · rw [payload_onlyMessage honly, hsub]
              exact hdecimal
            · obtain rfl := Tree.object.inj heq
              refine ⟨rfl, hproperty ▸ htruthy, ?_⟩
              rw [hsub]
              exact hdate
          · intro hpasses
            refine ⟨fun hproto => hpasses.noPrototype (.tail _ hproto), ?_, ?_⟩
            · have hdecimal := hpasses.noDecimal
              rw [payload_onlyMessage honly, hsub] at hdecimal
              exact hdecimal
            · have hdate := (hpasses.inMessage fields rfl honly).noDate
              rw [hsub] at hdate
              exact hdate
        · rw [Bool.not_eq_true] at htruthy
          refine iff_of_false ?_ fun hpasses => ?_
          · rw [htruthy]
            exact not_sent_of_falsy htruthy hvalueAt
          · have hmessage := (hpasses.inMessage fields rfl honly).message
            rw [hproperty, htruthy] at hmessage
            cases hmessage
      · have hdestination : destination (.object fields) (.field key :: path) =
            .field "data" :: .field key :: path := if_neg fun hcond => hkey hcond.2
        refine iff_of_false ?_ fun hpasses => hkey ?_
        · rw [hdestination, hsent]
          intro hfound
          cases hfound
        · exact Step.field.inj (Option.some.inj (hpasses.inMessage fields rfl honly).head)

/-- No sensitive key is sent. -/
theorem keys_respond (formats : Formats) (statusCode : ℕ) (data : JsTree) :
    ∀ body ∈ respond formats statusCode data, body.Keys (· ∉ sensitiveFields) := by
  have hkeys : ∀ key ∈ ["s", "e", "d"], ¬(key ∈ sensitiveFields ∨ IsPrototype key) := by decide
  have hleaf : ∀ a, (sanitizeLeaf a).Keys fun key =>
      ¬(key ∈ sensitiveFields ∨ IsPrototype key) := fun a => objects_sanitizeLeaf hkeys nofun a
  exact Tree.keys_collect
    (Tree.Keys.imp (fun _ hkey => (not_or.mp hkey).1) (Tree.keys_rewrite hleaf _))

end Envelope

/-- A value loses nothing but secrets exactly if none of the leaves of its payload is a decimal or
under `__proto__`, and, where it has a message and neither data nor meta, they are all in the
message, which is taken for true and holds no date. -/
theorem loses_nothing_iff (formats : Formats) (statusCode : ℕ) (value : JsValue) :
    LosesNothing formats statusCode value.tree ↔ LeavesPass formats value.tree := by
  have hleaf : ∀ path leaf, PayloadLeaf formats value.tree path leaf →
      ((respond formats statusCode value.tree).bind
          (Tree.sub? (destination value.tree path)) = some leaf ↔ LeafPasses value.tree path) := by
    intro path leaf h
    by_cases honly : ∃ fields, value.tree = .object fields ∧ hasOnlyMessage fields
    · obtain ⟨fields, heq, honly⟩ := honly
      have hdistinct := value.distinct
      rw [heq] at h hdistinct ⊢
      exact leaf_sent_onlyMessage_iff hdistinct honly h
    · refine leaf_sent_iff value.distinct (fun fields heq => ?_) h
      rw [← Bool.not_eq_true]
      exact fun hfields => honly ⟨fields, heq, hfields⟩
  constructor
  · exact fun h path leaf hpath => (hleaf path leaf hpath).mp (h.leaves path leaf hpath)
  · exact fun h => ⟨keys_respond _ _ _, fun path leaf hpath =>
      (hleaf path leaf hpath).mpr (h path leaf hpath)⟩

/-- What `stockIn` returns for a receipt of three items. -/
def stockReceived : JsTree :=
  .object [("success", .leaf (.bool true)),
    ("message", .leaf (.string "Successfully received 3 item(s)")),
    ("totalItems", .leaf (.number 3)), ("totalQuantity", .leaf (.number 150)),
    ("movementIds", .array [.leaf (.string "m1"), .leaf (.string "m2"), .leaf (.string "m3")])]

/-- The number of items and the ids of the movements of a receipt are not sent. -/
theorem received_loses_fields : ¬∃ formats, LosesNothing formats 201 stockReceived := by
  rintro ⟨formats, h⟩
  have hitems := h.leaves [.field "totalItems"] (.leaf (.number 3)) ⟨rfl, trivial, ?_⟩
  · cases hitems
  · intro key hkey
    obtain rfl := Step.field.inj (List.mem_singleton.mp hkey)
    decide

end Invetrixa
