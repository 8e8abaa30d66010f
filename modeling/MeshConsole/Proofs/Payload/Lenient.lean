import MeshConsole.Payload.Answers
import MeshConsole.Payload.Status
import MeshConsole.Proofs.Json.RecordText

/-!
# Odd fields

The node is careless about kinds, and a payload must not be lost to one odd field. So every field of
a record takes a value of any kind:

    text ──Holds──▶ value ──under?──▶ value of the field, or none ──content──▶ field

A record is lenient (`Payload.Lenient`) if it is decoded from every object and every array that is
not too long, and each of its fields depends on nothing but the value under its own name.
-/

namespace MeshConsole

open Json

/-! ## Fields -/

/-- A field of a record: the name that it stands under, its place in the record, what it is if there
is no value, and what a value of any kind makes of it. -/
structure LenientField (α : Type) where
  name : String
  Content : Type
  get : α → Content
  absent : Content
  take : Json → Content

namespace LenientField

variable {α : Type}

/-- What a field is with the given value, or without one. -/
def content (field : LenientField α) (value? : Option Json) : field.Content :=
  value?.elim field.absent field.take

/-- A record that is built from fields has the content of this one in its place. -/
def Reads (field : LenientField α) (build : Fields → α) : Prop :=
  ∀ fields, field.get (build fields) = field.content (fields.lookup field.name)

/-! ### Kinds of fields -/

def text? (name : String) (get : α → Option String) : LenientField α :=
  ⟨name, Option String, get, none, cellText?⟩

def text (name : String) (get : α → String) : LenientField α :=
  ⟨name, String, get, "", fun value => value.cellText?.getD ""⟩

def flag (name : String) (get : α → Bool) : LenientField α := ⟨name, Bool, get, false, isTruthy⟩

def texts (name : String) (get : α → List String) : LenientField α :=
  ⟨name, List String, get, [], Json.texts⟩

def value? (name : String) (get : α → Option Json) : LenientField α :=
  ⟨name, Option Json, get, none, present?⟩

def value (name : String) (get : α → Json) : LenientField α := ⟨name, Json, get, .null, id⟩

-- Inside a field of one of the following kinds, a value that is no payload is left out.

def elements {β : Type} [Payload β] (name : String) (get : α → List β) : LenientField α :=
  ⟨name, List β, get, [], fun value => (value.items?.getD []).filterMap Payload.ofJson?⟩

def entries {β : Type} [Payload β] (name : String) (get : α → List (String × β)) :
    LenientField α where
  name := name
  Content := List (String × β)
  get := get
  absent := []
  take
    | .object members =>
      members.filterMap fun member => (Payload.ofJson? member.2).map (member.1, ·)
    | _ => []

def payload {β : Type} [Payload β] (name : String) (get : α → β) (absent : β) : LenientField α :=
  ⟨name, β, get, absent, fun value => (Payload.ofJson? value).getD absent⟩

variable {build : Fields → α} {name : String}

@[simp] theorem reads_text? {get : α → Option String} :
    (text? name get).Reads build ↔ ∀ fields, get (build fields) = fields.text? name := by
  refine forall_congr' fun fields => ?_
  unfold Fields.text?
  cases h : fields.lookup name <;> simp [text?, content, h]

@[simp] theorem reads_text {get : α → String} :
    (text name get).Reads build ↔ ∀ fields, get (build fields) = fields.text name := by
  refine forall_congr' fun fields => ?_
  unfold Fields.text Fields.text?
  cases h : fields.lookup name <;> simp [text, content, h]

@[simp] theorem reads_flag {get : α → Bool} :
    (flag name get).Reads build ↔ ∀ fields, get (build fields) = fields.flag name := by
  refine forall_congr' fun fields => ?_
  unfold Fields.flag
  cases h : fields.lookup name <;> simp [flag, content, h]

@[simp] theorem reads_texts {get : α → List String} :
    (texts name get).Reads build ↔ ∀ fields, get (build fields) = fields.texts name := by
  refine forall_congr' fun fields => ?_
  unfold Fields.texts
  cases h : fields.lookup name <;> simp [texts, content, h]

@[simp] theorem reads_value? {get : α → Option Json} :
    (value? name get).Reads build ↔ ∀ fields, get (build fields) = fields.value? name := by
  refine forall_congr' fun fields => ?_
  unfold Fields.value?
  cases h : fields.lookup name <;> simp [value?, content, h]

@[simp] theorem reads_elements {β : Type} [Payload β] {get : α → List β} :
    (elements name get).Reads build ↔ ∀ fields, get (build fields) = fields.elements name := by
  refine forall_congr' fun fields => ?_
  unfold Fields.elements
  cases h : fields.lookup name <;> simp [elements, content, h]

@[simp] theorem reads_entries {β : Type} [Payload β] {get : α → List (String × β)} :
    (entries name get).Reads build ↔ ∀ fields, get (build fields) = fields.entries name := by
  refine forall_congr' fun fields => ?_
  unfold Fields.entries
  cases h : fields.lookup name with
  | none => simp [entries, content, h]
  | some value => cases value <;> simp [entries, content, h]

@[simp] theorem reads_value {get : α → Json} :
    (value name get).Reads build ↔
      ∀ fields, get (build fields) = (fields.lookup name).getD .null := by
  refine forall_congr' fun fields => ?_
  cases h : fields.lookup name <;> simp [value, content, h]

@[simp] theorem reads_payload {β : Type} [Payload β] {get : α → β} {absent : β} :
    (payload name get absent).Reads build ↔
      ∀ fields, get (build fields) =
        ((fields.lookup name).bind Payload.ofJson?).getD absent := by
  refine forall_congr' fun fields => ?_
  cases h : fields.lookup name <;> simp [payload, content, h]

end LenientField

/-! ## Lenient records -/

/-- The value that stands for a field of a record with the given names: the one under the name in an
object, the one at the place of the name in an array. -/
def Json.under? (names : List String) (value : Json) (name : String) : Option Json :=
  match value with
  | .object fields => fields.lookup name
  | .array items => (names.zip items).lookup name
  | _ => none

/-- An object, or an array of at most as many items as the record has fields. -/
def Json.IsRecord (count : Nat) : Json → Prop
  | .object _ => True
  | .array items => items.length ≤ count
  | _ => False

/-- Records of a type are never lost to an odd field. All of this is about texts that hold a value
and repeat no name of the record. -/
structure Payload.Lenient (α : Type) [Payload α] (fields : List (LenientField α)) : Prop where
  /-- No two fields share a name. -/
  names_nodup : (fields.map (·.name)).Nodup
  /-- There is nothing more to a record than these fields. -/
  ext : ∀ first second : α, (∀ field ∈ fields, field.get first = field.get second) → first = second
  /-- Whether a text decodes does not depend on the values of the fields. -/
  isSome_iff : ∀ {s value}, Holds (fields.map (·.name)) s value →
    ((Payload.read? s : Option α).isSome ↔ value.IsRecord fields.length)
  /-- Each field depends on the value under its own name. -/
  get_eq : ∀ {s value} {record : α}, Holds (fields.map (·.name)) s value →
    Payload.read? s = some record →
    ∀ field ∈ fields,
      field.get record = field.content (value.under? (fields.map (·.name)) field.name)
  /-- Another value under one name changes no other field. -/
  get_eq_of_ne : ∀ {s t value other changed}, Holds (fields.map (·.name)) s value →
    Holds (fields.map (·.name)) t other → value.IsRecord fields.length →
    other.IsRecord fields.length →
    (∀ name ∈ fields.map (·.name), name ≠ changed →
      value.under? (fields.map (·.name)) name = other.under? (fields.map (·.name)) name) →
    ∃ first second : α, Payload.read? s = some first ∧ Payload.read? t = some second ∧
      ∀ field ∈ fields, field.name ≠ changed → field.get first = field.get second
  /-- An array gives the record of an object that has its items under the names. -/
  array_eq_object : ∀ {s t items members}, Holds (fields.map (·.name)) s (.array items) →
    Holds (fields.map (·.name)) t (.object members) → items.length ≤ fields.length →
    (∀ name ∈ fields.map (·.name),
      members.lookup name = ((fields.map (·.name)).zip items).lookup name) →
    ∃ record : α, Payload.read? s = some record ∧ Payload.read? t = some record

theorem Json.isSome_recordFields?_iff {names : List String} {value : Json} :
    (recordFields? names value).isSome ↔ value.IsRecord names.length := by
  cases value with
  | array items =>
      unfold recordFields? IsRecord
      split <;> simp_all
  | _ => simp [recordFields?, IsRecord]

theorem Json.lookup_of_recordFields? {names : List String} {value : Json} {found : Fields}
    (h : recordFields? names value = some found) (name : String) :
    found.lookup name = value.under? names name := by
  cases value with
  | object fields =>
      cases h
      rfl
  | array items =>
      simp only [recordFields?] at h
      split at h
      · cases h
        rfl
      · cases h
  | _ => cases h

namespace Payload

section

variable {α : Type} {fields : List (LenientField α)} {build : Fields → α}
  (hext : ∀ first second : α, (∀ field ∈ fields, field.get first = field.get second) →
    first = second)
  (hreads : ∀ field ∈ fields, field.Reads build)

include hext hreads

/-- A record is made of the fields under its names. -/
theorem build_congr {first second : Fields}
    (h : ∀ name ∈ fields.map (·.name), first.lookup name = second.lookup name) :
    build first = build second := by
  apply hext
  intro field hfield
  rw [hreads field hfield, hreads field hfield, h _ (List.mem_map_of_mem hfield)]

/-- Where a text holds a value, a record is read as it is decoded from the value. -/
theorem read?_eq_ofJson? {s : String} {value : Json}
    (h : Holds (fields.map (·.name)) s value) :
    @Payload.read? α (.record (fields.map (·.name)) build) s =
      (recordFields? (fields.map (·.name)) value).map build := by
  unfold Payload.read?
  dsimp only [Payload.form, Payload.ofJson?]
  rw [h.whole?_recordForm]
  cases value with
  | object members =>
      show some (build _) = some (build members)
      apply congrArg some
      apply build_congr hext hreads
      intro name hname
      rw [fields_eq_of_read? h.read]
      exact Fields.lookup_known h.once hname
  | array items =>
      dsimp only [recordFields?]
      split
      · next hlength => simpa [recordFields?] using hlength
      · rfl
  | _ => rfl

theorem lenient_record (hnodup : (fields.map (·.name)).Nodup) :
    @Payload.Lenient α (.record (fields.map (·.name)) build) fields := by
  have hread {s : String} {value : Json} (h : Holds (fields.map (·.name)) s value) :=
    read?_eq_ofJson? hext hreads h
  have hisSome {value : Json} : (recordFields? (fields.map (·.name)) value).isSome ↔
      value.IsRecord fields.length := by
    rw [isSome_recordFields?_iff, List.length_map]
  have hget {value : Json} {found : Fields}
      (h : recordFields? (fields.map (·.name)) value = some found) :
      ∀ field ∈ fields, field.get (build found) =
        field.content (value.under? (fields.map (·.name)) field.name) := by
    intro field hfield
    rw [hreads field hfield, lookup_of_recordFields? h]
  refine @Payload.Lenient.mk α (.record (fields.map (·.name)) build) fields hnodup hext
    ?isSome_iff ?get_eq ?get_eq_of_ne ?array_eq_object
  case isSome_iff =>
    intro s value h
    rw [hread h, Option.isSome_map, hisSome]
  case get_eq =>
    intro s value record h hrecord
    rw [hread h] at hrecord
    obtain ⟨found, hfound, rfl⟩ := Option.map_eq_some_iff.mp hrecord
    exact hget hfound
  case get_eq_of_ne =>
    intro s t value other changed hs ht hvalue hother hsame
    obtain ⟨first, hfirst⟩ := Option.isSome_iff_exists.mp (hisSome.mpr hvalue)
    obtain ⟨second, hsecond⟩ := Option.isSome_iff_exists.mp (hisSome.mpr hother)
    refine ⟨build first, build second, by rw [hread hs, hfirst]; rfl,
      by rw [hread ht, hsecond]; rfl, fun field hfield hne => ?_⟩
    rw [hget hfirst field hfield, hget hsecond field hfield,
      hsame field.name (List.mem_map_of_mem hfield) hne]
  case array_eq_object =>
    intro s t items members hs ht hlength hsame
    have hitems : recordFields? (fields.map (·.name)) (.array items) =
        some ((fields.map (·.name)).zip items) := by
      simpa [recordFields?] using hlength
    refine ⟨build members, ?_, by rw [hread ht]; rfl⟩
    rw [hread hs, hitems, Option.map_some, build_congr hext hreads hsame]

end

end Payload

/-! ## The records of the node -/

attribute [ext] Capabilities Status Device Wireless Link Neighbor UplinkHop Route Connections Port

def Capabilities.fields : List (LenientField Capabilities) :=
  [.flag "traceroute" traceroute, .flag "show_admin_link" showAdminLink]

def Status.fields : List (LenientField Status) :=
  [.text? "hostname" hostname, .text? "ip" ip, .text? "uptime" uptimeSeconds,
   .text? "uptime_str" uptimeText, .elements "devices" devices, .entries "airosdata" airosdata,
   .payload "default_route" defaultRoute .absent,
   .elements "links" links, .elements "neighbors" neighbors, .flag "olsr2_on" olsr2On,
   .text? "admin_url" adminUrlField, .value "admin" admin,
   .elements "trace_to_uplink" traceToUplink, .text? "trace_target" traceTarget]

def Device.fields : List (LenientField Device) :=
  [.text? "ipv4" ipv4, .text? "hwaddr" hwaddr, .text? "hostname" hostname,
   .text? "product" product, .text? "uptime" uptime, .text? "mode" mode, .text? "essid" essid,
   .text? "firmware" firmware]

def Wireless.fields : List (LenientField Wireless) :=
  [.value? "frequency" frequency, .value? "chanbw" chanbw, .text? "mode" mode]

def Link.fields : List (LenientField Link) :=
  [.text? "intf" intf, .text? "local" localAddress, .text? "remote" remoteAddress,
   .text? "remote_host" remoteHost, .text? "lq" quality, .text? "nlq" neighborQuality,
   .text? "cost" cost, .text? "routes" routes, .text? "nodes" nodes]

def Neighbor.fields : List (LenientField Neighbor) :=
  [.text? "originator" originator, .text? "hostname" hostname, .text? "bindto" bindto,
   .text? "lq" quality, .text? "nlq" neighborQuality, .text? "cost" cost, .text? "metric" metric]

def UplinkHop.fields : List (LenientField UplinkHop) :=
  [.text "hop" hop, .text "ip" ip, .text? "host" host, .text? "hostname" hostname,
   .text "ping" ping]

def Route.fields : List (LenientField Route) :=
  [.text "hostname" hostname, .text "ip" ip, .text "dev" device]

def Connections.fields : List (LenientField Connections) := [.elements "ports" ports]

def Port.fields : List (LenientField Port) :=
  [.text? "port" port, .text? "bridge" bridge, .texts "macs" macs, .texts "ips" ips,
   .text? "notes" notes]

theorem Capabilities.lenient : Payload.Lenient Capabilities fields := by
  refine @Payload.lenient_record Capabilities fields ofFields (fun _ _ h => ?_) ?_ (by decide)
  · exact Capabilities.ext_iff.mpr (List.forall_iff_forall_mem.mpr h)
  · simp [fields, ofFields]

theorem Status.lenient : Payload.Lenient Status fields := by
  refine @Payload.lenient_record Status fields ofFields (fun _ _ h => ?_) ?_ (by decide)
  · exact Status.ext_iff.mpr (List.forall_iff_forall_mem.mpr h)
  · simp [fields, ofFields]

theorem Device.lenient : Payload.Lenient Device fields := by
  refine @Payload.lenient_record Device fields ofFields (fun _ _ h => ?_) ?_ (by decide)
  · exact Device.ext_iff.mpr (List.forall_iff_forall_mem.mpr h)
  · simp [fields, ofFields]

theorem Wireless.lenient : Payload.Lenient Wireless fields := by
  refine @Payload.lenient_record Wireless fields ofFields (fun _ _ h => ?_) ?_ (by decide)
  · exact Wireless.ext_iff.mpr (List.forall_iff_forall_mem.mpr h)
  · simp [fields, ofFields]

theorem Link.lenient : Payload.Lenient Link fields := by
  refine @Payload.lenient_record Link fields ofFields (fun _ _ h => ?_) ?_ (by decide)
  · exact Link.ext_iff.mpr (List.forall_iff_forall_mem.mpr h)
  · simp [fields, ofFields]

theorem Neighbor.lenient : Payload.Lenient Neighbor fields := by
  refine @Payload.lenient_record Neighbor fields ofFields (fun _ _ h => ?_) ?_ (by decide)
  · exact Neighbor.ext_iff.mpr (List.forall_iff_forall_mem.mpr h)
  · simp [fields, ofFields]

theorem UplinkHop.lenient : Payload.Lenient UplinkHop fields := by
  refine @Payload.lenient_record UplinkHop fields ofFields (fun _ _ h => ?_) ?_ (by decide)
  · exact UplinkHop.ext_iff.mpr (List.forall_iff_forall_mem.mpr h)
  · simp [fields, ofFields]

theorem Route.lenient : Payload.Lenient Route fields := by
  refine @Payload.lenient_record Route fields ofFields (fun _ _ h => ?_) ?_ (by decide)
  · exact Route.ext_iff.mpr (List.forall_iff_forall_mem.mpr h)
  · simp [fields, ofFields]

theorem Connections.lenient : Payload.Lenient Connections fields := by
  refine @Payload.lenient_record Connections fields ofFields (fun _ _ h => ?_) ?_ (by decide)
  · exact Connections.ext_iff.mpr (List.forall_iff_forall_mem.mpr h)
  · simp [fields, ofFields]

theorem Port.lenient : Payload.Lenient Port fields := by
  refine @Payload.lenient_record Port fields ofFields (fun _ _ h => ?_) ?_ (by decide)
  · exact Port.ext_iff.mpr (List.forall_iff_forall_mem.mpr h)
  · simp [fields, ofFields]

/-! ## Payloads that are no records -/

/-- A directory is made of any value. -/
theorem Directory.read?_eq {s : String} {value : Json} (h : Json.read? s = some value) :
    (Payload.read? s : Option Directory) = some (.ofJson value) := by
  show (whole? (Json.value? depthLimit) s).bind (fun value => some (Directory.ofJson value)) = _
  rw [show whole? (Json.value? depthLimit) s = some value from h]
  rfl

/-- Null may stand for a payload of a type, and leaves the other texts as they are. -/
structure Payload.Nullable (α : Type) [Payload α] : Prop where
  read?_null : ∀ {s}, Json.read? s = some .null →
    (Payload.read? s : Option (Option α)) = some none
  read?_of_ne : ∀ {s value}, Json.read? s = some value → value ≠ .null →
    (Payload.read? s : Option (Option α)) = (Payload.read? s : Option α).map some

theorem Payload.nullable_record {α : Type} (names : List String) (build : Fields → α) :
    @Payload.Nullable α (.record names build) := by
  refine @Payload.Nullable.mk α (.record names build) ?_ ?_
  · intro s h
    unfold Payload.read?
    dsimp only [Payload.form, Payload.ofJson?]
    rw [whole?_optionalForm_null _ h]
    rfl
  · intro s value h hvalue
    unfold Payload.read?
    dsimp only [Payload.form, Payload.ofJson?]
    rw [whole?_optionalForm_of_ne _ h hvalue]
    cases hrecord : whole? (recordForm (names.map fun name => (name, anyForm)) depthLimit) s with
    | none => rfl
    | some found =>
        obtain ⟨rest, hfound, -⟩ := whole?_eq_some_iff.mp hrecord
        cases found with
        | null => exact absurd rfl (ne_null_of_recordForm hfound)
        | _ => rfl

/-! ## The payloads of the node -/

/-- **Odd fields do no harm.** Each record of the node is lenient, a directory is made of any value,
and null is accepted where a load may be without its payload. -/
theorem payloads_lenient :
    (Payload.Lenient Capabilities Capabilities.fields ∧ Payload.Lenient Status Status.fields ∧
      Payload.Lenient Device Device.fields ∧ Payload.Lenient Wireless Wireless.fields ∧
      Payload.Lenient Link Link.fields ∧ Payload.Lenient Neighbor Neighbor.fields ∧
      Payload.Lenient UplinkHop UplinkHop.fields ∧ Payload.Lenient Route Route.fields ∧
      Payload.Lenient Connections Connections.fields ∧ Payload.Lenient Port Port.fields) ∧
    (∀ s value, Json.read? s = some value →
      (Payload.read? s : Option Directory) = some (.ofJson value)) ∧
    Payload.Nullable Capabilities ∧ Payload.Nullable Status ∧ Payload.Nullable Connections :=
  ⟨⟨Capabilities.lenient, Status.lenient, Device.lenient, Wireless.lenient, Link.lenient,
      Neighbor.lenient, UplinkHop.lenient, Route.lenient, Connections.lenient, Port.lenient⟩,
    fun _ _ => Directory.read?_eq,
    Payload.nullable_record Capabilities.names Capabilities.ofFields,
    Payload.nullable_record Status.names Status.ofFields,
    Payload.nullable_record ["ports"] Connections.ofFields⟩

/-- A status in which every field is odd: a number for the name, a text for the devices, links that
are none, and a member that nobody knows. -/
def Status.odd : String :=
  "\x7b\"hostname\": 5, \"devices\": \"none\", \"links\": [7, [\"eth0\"]], \"\": [\x7b\x7d]\x7d"

theorem payloads_lenient_odd :
    ∃ status : Status, Payload.read? Status.odd = some status ∧
      status.hostname = some "5" ∧ status.devices = [] ∧
      status.links.map Link.intf = [some "eth0"] := by
  have hvalue : Json.read? Status.odd = some (.object
      [("", .array [.object []]), ("devices", .text "none"),
       ("hostname", .number (.whole ⟨5, by decide⟩)),
       ("links", .array [.number (.whole ⟨7, by decide⟩), .array [.text "eth0"]])]) := by rfl
  have hholds : Holds (Status.fields.map (·.name)) Status.odd _ := ⟨hvalue, by decide +kernel⟩
  obtain ⟨status, hstatus⟩ := Option.isSome_iff_exists.mp
    ((payloads_lenient.1.2.1.isSome_iff hholds).mpr trivial)
  have hfields := payloads_lenient.1.2.1.get_eq hholds hstatus
  refine ⟨status, hstatus, ?_, ?_, ?_⟩
  · exact hfields (.text? "hostname" Status.hostname) (by simp [Status.fields])
  · exact hfields (.elements "devices" Status.devices) (by simp [Status.fields])
  · have hlinks : status.links = [Link.ofFields [("intf", .text "eth0")]] :=
      hfields (.elements "links" Status.links) (by simp [Status.fields])
    rw [hlinks]
    rfl

end MeshConsole
