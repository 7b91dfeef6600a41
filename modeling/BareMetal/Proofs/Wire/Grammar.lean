/-
# The grammar of the wire

What a value has to look like to be an entity of a kind, all the way down. The fields
of every kind are written out here (`Kind.wireFields`), apart from the schemas that the
readers check; a field that holds entities says of which kind they are.

| type | values |
| --- | --- |
| `text`, `flag` | a text, a flag |
| `number` | what stands for a whole number (`Denotes`) |
| `size` | what stands for a whole number that is not negative |
| `listOf t`, `mapOf t` | a list or a map of values of `t` |
| `orNull t` | null and the values of `t` |
| `flagOrWord` | a flag and the words `true` and `false`, in any case |
| `settings` | a text, null and every map |
| `entity k` | a map whose entries are what the fields of `k` ask for |

A field may be missing if it is optional, which is to say that it has a default, or if
its type has null.
-/

import BareMetal.Kind

namespace BareMetal

/-- What the values of a field are. -/
inductive WireType where
  | text
  | flag
  | number
  | size
  | listOf (item : WireType)
  | mapOf (value : WireType)
  | orNull (type : WireType)
  | flagOrWord
  | settings
  | entity (kind : Kind)
deriving DecidableEq, Repr

/-- Null is a value of the type. -/
def WireType.admitsNull : WireType → Bool
  | orNull _ | settings => true
  | _ => false

/-- A field of the grammar; an optional one has a default. -/
structure WireField where
  name : String
  type : WireType
  isOptional : Bool
deriving DecidableEq, Repr

namespace WireField

/-- A field that has to be there, unless its type has null. -/
def required (name : String) (type : WireType) : WireField := ⟨name, type, false⟩

/-- A field that has a default. -/
def optional (name : String) (type : WireType) : WireField := ⟨name, type, true⟩

end WireField

open WireField WireType in
/-- The fields of a kind. -/
def Kind.wireFields : Kind → List WireField
  | vlan => [
    required "resource_uri" text, required "id" number, optional "name" (orNull text),
    required "fabric" text, required "vid" number, required "mtu" number,
    required "dhcp_on" flag, optional "primary_rack" (orNull text),
    optional "secondary_rack" (orNull text)]
  | subnet => [
    required "resource_uri" text, required "id" number, required "name" text,
    required "space" text, optional "gateway_ip" (orNull text), required "cidr" text,
    required "vlan" (entity vlan), optional "dns_servers" (orNull (listOf text))]
  | link => [
    required "id" number, required "mode" text, optional "subnet" (orNull (entity subnet)),
    optional "ip_address" text]
  | interface => [
    required "resource_uri" text, required "id" number, required "name" text,
    required "type" text, required "enabled" flag, optional "tags" (listOf text),
    optional "vlan" (orNull (entity vlan)), required "links" (listOf (entity link)),
    optional "mac_address" (orNull text), required "effective_mtu" number,
    optional "params" settings, required "parents" (listOf text),
    required "children" (listOf text)]
  | fabric => [
    required "resource_uri" text, required "id" number, required "name" text,
    optional "class_type" (orNull text), required "vlans" (listOf (entity vlan))]
  | space => [
    required "resource_uri" text, required "id" number, required "name" text,
    optional "class_type" (orNull text), optional "vlans" (listOf (entity vlan)),
    optional "subnets" (listOf (entity subnet))]
  | staticRoute => [
    required "resource_uri" text, required "id" number, required "source" (entity subnet),
    required "destination" (entity subnet), required "gateway_ip" text,
    required "metric" number]
  | fileSystem => [
    required "fstype" text, required "mount_point" (orNull text),
    required "label" (orNull text), required "uuid" text]
  | partition => [
    required "resource_uri" text, required "id" number, required "path" text,
    required "uuid" (orNull text), required "used_for" text, required "size" size,
    optional "tags" (listOf text), optional "filesystem" (orNull (entity fileSystem))]
  | blockDevice => [
    required "resource_uri" text, required "id" number, required "uuid" (orNull text),
    required "name" (orNull text), required "model" (orNull text),
    required "id_path" (orNull text), required "path" text, required "used_for" text,
    required "tags" (orNull (listOf text)), required "block_size" (orNull size),
    required "used_size" (orNull size), required "size" size,
    optional "filesystem" (orNull (entity fileSystem)),
    required "partitions" (orNull (listOf (entity partition)))]
  | volumeGroup => [
    required "resource_uri" text, required "id" number, required "name" text,
    required "uuid" (orNull text), required "size" size,
    required "devices" (listOf (entity blockDevice))]
  | zone | pool => [
    required "resource_uri" text, required "name" text, required "description" text]
  | domain => [
    required "resource_uri" text, required "id" number, required "name" text,
    optional "ttl" (orNull number), optional "authoritative" flagOrWord,
    optional "resource_record_count" number]
  | tag => [
    required "resource_uri" text, required "name" text, optional "comment" text,
    optional "definition" text, optional "kernel_opts" text]
  | bootResource => [
    required "resource_uri" text, required "id" number, required "name" text,
    required "type" text, required "architecture" text, optional "subarches" text,
    optional "kflavor" text]
  | storedFile => [
    required "resource_uri" text, required "filename" text,
    required "anon_resource_uri" text, optional "content" text]
  | device => [
    required "resource_uri" text, required "system_id" text, required "hostname" text,
    required "fqdn" text, optional "parent" (orNull text), optional "owner" (orNull text),
    required "ip_addresses" (listOf text), optional "tag_names" (listOf text),
    optional "interface_set" (listOf (entity interface)), required "zone" (entity zone)]
  | machine => [
    required "resource_uri" text, required "system_id" text, required "hostname" text,
    required "fqdn" text, required "tag_names" (listOf text),
    optional "owner_data" (mapOf text), required "osystem" text,
    required "distro_series" text, optional "architecture" (orNull text),
    required "memory" number, required "cpu_count" number,
    required "ip_addresses" (listOf text), required "power_state" text,
    required "status_name" text, optional "status_message" (orNull text),
    optional "boot_interface" (orNull (entity interface)),
    required "interface_set" (listOf (entity interface)), required "zone" (entity zone),
    optional "pool" (orNull (entity pool)),
    required "physicalblockdevice_set" (listOf (entity blockDevice)),
    required "blockdevice_set" (listOf (entity blockDevice))]

/-- The value stands for the whole number: it is that number, a finite floating-point
number with that whole part, or a numeral of one or the other. -/
inductive Denotes : Datum → Int → Prop
  | int (n : Int) : Denotes (.int n) n
  | float {x : Binary64} {n : Int} (whole : x.truncate? = some n) : Denotes (.float x) n
  | numeral {s : String} {n : Int} (reads : Numeral.int? s = some n) : Denotes (.text s) n
  | decimal {s : String} {x : Binary64} {n : Int} (other : Numeral.int? s = none)
      (reads : Numeral.float? s = some x) (whole : x.truncate? = some n) : Denotes (.text s) n

/-- The value belongs to the type. -/
inductive Conforms : WireType → Datum → Prop
  | text (s : String) : Conforms .text (.text s)
  | flag (b : Bool) : Conforms .flag (.bool b)
  | number {d : Datum} (n : Int) (denotes : Denotes d n) : Conforms .number d
  | size {d : Datum} (n : Nat) (denotes : Denotes d n) : Conforms .size d
  | listOf {t : WireType} {ds : List Datum} (items : ∀ d ∈ ds, Conforms t d) :
      Conforms (.listOf t) (.list ds)
  | mapOf {t : WireType} {es : Entries Datum} (values : ∀ e ∈ es, Conforms t e.2) :
      Conforms (.mapOf t) (.map es)
  | null (t : WireType) : Conforms (.orNull t) .null
  | orNull {t : WireType} {d : Datum} (value : Conforms t d) : Conforms (.orNull t) d
  | flagItself (b : Bool) : Conforms .flagOrWord (.bool b)
  | word {s : String} (spelled : Text.spells "true" s ∨ Text.spells "false" s) :
      Conforms .flagOrWord (.text s)
  | noSettings : Conforms .settings .null
  | plainSettings (s : String) : Conforms .settings (.text s)
  | mappedSettings (es : Entries Datum) : Conforms .settings (.map es)
  | entity {k : Kind} {es : Entries Datum}
      (present : ∀ f ∈ k.wireFields, ∀ d, Entries.get? f.name es = some d → Conforms f.type d)
      (missing : ∀ f ∈ k.wireFields, Entries.get? f.name es = none →
        f.isOptional ∨ f.type.admitsNull) :
      Conforms (.entity k) (.map es)

/-- The grammar of the type has an entity of the kind `l` where the value `e` stands in
the value, at any depth. -/
inductive Within : WireType → Datum → Kind → Datum → Prop
  | itself (k : Kind) (d : Datum) : Within (.entity k) d k d
  | item {t : WireType} {ds : List Datum} {d e : Datum} {l : Kind} (mem : d ∈ ds)
      (inner : Within t d l e) : Within (.listOf t) (.list ds) l e
  | entry {t : WireType} {es : Entries Datum} {x : String × Datum} {e : Datum} {l : Kind}
      (mem : x ∈ es) (inner : Within t x.2 l e) : Within (.mapOf t) (.map es) l e
  | value {t : WireType} {d e : Datum} {l : Kind} (given : d ≠ .null)
      (inner : Within t d l e) : Within (.orNull t) d l e
  | field {k l : Kind} {es : Entries Datum} {f : WireField} {d e : Datum}
      (mem : f ∈ k.wireFields) (found : Entries.get? f.name es = some d)
      (inner : Within f.type d l e) : Within (.entity k) (.map es) l e

/-- A value of a type has entities of the right kind wherever the type has some. -/
theorem Conforms.within {t : WireType} {d e : Datum} {l : Kind} (h : Conforms t d)
    (w : Within t d l e) : Conforms (.entity l) e := by
  induction w with
  | itself k d => exact h
  | item mem inner ih =>
    cases h with
    | listOf items => exact ih (items _ mem)
  | entry mem inner ih =>
    cases h with
    | mapOf values => exact ih (values _ mem)
  | value given inner ih =>
    cases h with
    | null => exact absurd rfl given
    | orNull value => exact ih value
  | field mem found inner ih =>
    cases h with
    | entity present missing => exact ih (present _ mem _ found)

/-- A value other than null belongs to a type with null exactly if it belongs to the type. -/
theorem Conforms.orNull_iff {t : WireType} {d : Datum} (given : d ≠ .null) :
    Conforms (.orNull t) d ↔ Conforms t d := by
  refine ⟨fun h => ?_, .orNull⟩
  cases h with
  | null => exact absurd rfl given
  | orNull value => exact value

/-- Null belongs to the types that say so and to no other. -/
theorem conforms_null_iff {t : WireType} : Conforms t .null ↔ t.admitsNull := by
  constructor
  · rintro (_ | _ | ⟨n, ⟨⟩⟩ | ⟨n, ⟨⟩⟩ | _ | _ | _ | _) <;> rfl
  · intro h
    cases t with
    | orNull t => exact .null t
    | settings => exact .noSettings
    | _ => cases h

namespace WireField

/-- The entries have what the field asks for. -/
def Met (f : WireField) (es : Entries Datum) : Prop :=
  match es.get? f.name with
  | some d => Conforms f.type d
  | none => f.isOptional ∨ f.type.admitsNull

end WireField

/-- A map is an entity of a kind exactly if it has what each field asks for; the fields are
told apart one at a time. -/
theorem conforms_entity_iff {k : Kind} {es : Entries Datum} :
    Conforms (.entity k) (.map es) ↔ ∀ f ∈ k.wireFields, f.Met es := by
  constructor
  · intro h f hf
    cases h with
    | entity present missing =>
      unfold WireField.Met
      split
      · next d hd => exact present f hf d hd
      · next hn => exact missing f hf hn
  · intro h
    refine .entity (fun f hf d hd => ?_) fun f hf hn => ?_
    · simpa [WireField.Met, hd] using h f hf
    · simpa [WireField.Met, hn] using h f hf

end BareMetal
