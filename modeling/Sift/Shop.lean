import Sift.Storage

/-!
# A shop

A worked set of declarations: the orders of a shop, and the filters that are used to search them.
An order has a customer, possibly a billing customer and a parent order, so paths lead through
nested and optional records, and orders contain orders.

The filters between them use every operator, every kind of target and most pairs of types. All of
its declarations are accepted, so its library exposes what they say (`Shop.library_declares`).
-/

namespace Sift

namespace Shop

/-! ## 1. Notation for declarations -/

def typeName (s : String) : TypeName := ⟨s⟩

/-- A field that is searched with the given attributes. -/
def field (name : String) (type : Storage) (a : Attributes) : DeclaredField Storage :=
  ⟨name, type, a⟩

/-- A field without attributes. -/
def plain (name : String) (type : Storage) : DeclaredField Storage :=
  field name type .empty

/-- A field that is searched at a path with an operator. -/
def atPath (op : Operator) (path : String) : Attributes :=
  { Attributes.empty with operator := some op, path := some path }

/-- A field that is searched at a path. -/
def along (path : String) : Attributes := { Attributes.empty with path := some path }

/-- A field that is searched with an operator. -/
def withOperator (op : Operator) : Attributes := { Attributes.empty with operator := some op }

/-- A field that is seen under another name. -/
def named (name : String) : Attributes := { Attributes.empty with rename := some name }

def skipped : Attributes := { Attributes.empty with skip := true }

def ignored : Attributes := { Attributes.empty with ignore := true }

/-- The field applies also when its value is empty. -/
def keepEmpty : Attributes := { Attributes.empty with ignoreIfEmpty := some false }

def negated : Attributes := { Attributes.empty with negate := true }

def status : Storage := .enum (typeName "Status")

def level : Storage := .enum (typeName "Level")

def customer : Storage := .record (typeName "Customer")

def order : Storage := .record (typeName "Order")

/-! ## 2. Declarations -/

/-- The variants of the enums, in declaration order. -/
def variants : List (TypeName × List String) :=
  [(typeName "Status", ["Any", "Open", "Closed"]), (typeName "Level", ["Low", "Mid", "High"])]

/-- A filter with one field, of any storage. -/
def only (type : Storage) : List (DeclaredField Storage) := [plain "note" type]

def declarations : List (TypeName × List (DeclaredField Storage)) :=
  [(typeName "Geo", [plain "zone" (.option .text), plain "lat" (.number .f64)]),
    (typeName "Customer",
      [plain "name" .text, plain "city" .text, plain "vip" .bool,
        plain "geo" (.option (.box (.record (typeName "Geo"))))]),
    (typeName "Order",
      [plain "id" (.number .u64), plain "status" status, plain "level" level,
        plain "customer" customer, plain "billing" (.option customer),
        plain "placed_at" .dateTime, plain "shipped_on" (.option .date),
        plain "tags" (.list .text), plain "codes" (.set (.number .i32)),
        plain "total" (.number .f64), plain "qty" (.number .i16),
        plain "small" (.option (.number .u8)), plain "note" (.option .text),
        plain "seen" .timestamp,
        field "reference" (.box .text) ((named "ref").followedBy (withOperator .endsWith)),
        plain "parent" (.option (.box order)), field "idx" (.number .u32) skipped]),
    (typeName "OrderFilter",
      [plain "status" status, field "city" .text (atPath .equal "customer.city"),
        field "placed_after" .dateTime (atPath .greaterThan "placed_at"),
        field "shipped" .bool (atPath .isNotNull "shipped_on"),
        field "any_tags" (.list .text) ((named "tags").followedBy (withOperator .isIn)),
        field "page" (.number .u32) ignored,
        field "cursor" (.list (.list (.number .u8))) skipped]),
    (typeName "RangeFilter",
      [field "min_total" (.number .f64) (atPath .greaterOrEqual "total"),
        field "max_total" (.number .f64) (atPath .lessOrEqual "total"),
        field "below" (.number .i16) ((atPath .lessThan "qty").followedBy keepEmpty),
        field "small" (.option (.number .u8)) (withOperator .greaterThan),
        field "seen_by" .timestamp (atPath .lessOrEqual "seen"),
        field "from_name" (.option .text) (atPath .greaterOrEqual "customer.name")]),
    (typeName "SetFilter",
      [field "ids" (.set (.number .u64)) (named "id"), field "levels" (.list level) (along "level"),
        field "tag" .text (along "tags"), plain "codes" (.list (.number .i32)),
        field "not_notes" (.option (.list (.option .text)))
          ((along "note").followedBy negated)]),
    (typeName "DeepFilter",
      [field "zone" .text (along "billing.geo.zone"),
        field "no_geo" .bool (atPath .isNull "billing.geo"),
        field "grand_city" .text (atPath .startsWith "parent.parent.customer.city"),
        field "parent_level" (.option level) (along "parent.level"),
        field "vip" .bool
          { withOperator .notEqual with path := some "customer.vip", ignoreIfEmpty := some true },
        field "reference" .text (named "ref"),
        field "note_is" (.option .text)
          (((atPath .notEqual "note").followedBy negated).followedBy keepEmpty)]),
    (typeName "RecordFilter", [plain "customer" customer, plain "status" status]),
    (typeName "OptionalStatus",
      [field "status" (.option status) (atPath .equal "status"),
        field "billing" (.number .u8) (withOperator .isNull)]),
    (typeName "Only<String>", only .text), (typeName "Only<Vec<String>>", only (.list .text)),
    (typeName "Only<Option<String>>", only (.option .text)),
    (typeName "Only<i32>", only (.number .i32)),
    (typeName "Empty", [])]

/-- The record types with the fields they expose. -/
def library : Library := .ofDeclarations declarations

/-- The declared fields of a record type. -/
def fieldsOf (name : TypeName) : List (DeclaredField Storage) :=
  (declarations.lookup name).getD []

end Shop

end Sift
