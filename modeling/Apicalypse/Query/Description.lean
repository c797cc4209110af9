import Apicalypse.Description
import Apicalypse.Query

/-!
# Descriptions of queries

How queries and their parts are shown to a developer. Every part of a query has its place in the
description, set or not.
-/

namespace Apicalypse

instance : Describable Case where
  describe
    | .sensitive => .word "Sensitive"
    | .insensitive => .word "Insensitive"

instance : Describable SortOrder where
  describe
    | .ascending => .word "Ascending"
    | .descending => .word "Descending"

instance : Describable Operator where
  describe
    | .equal => .word "Equal"
    | .notEqual => .word "NotEqual"
    | .greaterThan => .word "GreaterThan"
    | .greaterThanOrEqual => .word "GreaterThanOrEqual"
    | .lessThan => .word "LessThan"
    | .lessThanOrEqual => .word "LessThanOrEqual"
    | .startsWith case => .apply "StartsWith" (describe case)
    | .endsWith case => .apply "EndsWith" (describe case)
    | .contains case => .apply "Contains" (describe case)
    | .containsAll => .word "ContainsAll"
    | .containsExclusively => .word "ContainsExclusively"
    | .containsAtLeastOne => .word "ContainsAtLeastOne"
    | .containsNone => .word "ContainsNone"
    | .and => .word "And"
    | .or => .word "Or"

instance : Describable Filter where
  describe filter :=
    .record "Filter" [
      ("field", .quoted filter.field),
      ("operator", describe filter.operator),
      ("value", .quoted filter.value)]

instance : Describable Sorting where
  describe sort :=
    .record "Sort" [("field", .quoted sort.field), ("order", describe sort.order)]

namespace Query

/-- A 64-bit number. -/
def describeWord (n : UInt64) : Description := .word (wordText n)

instance {E : Entity} : Describable (Query E) where
  describe query :=
    .record "Query" [
      ("entity", .quoted E.name),
      ("includes", .list (query.includes.map .quoted)),
      ("excludes", .list (query.excludes.map .quoted)),
      ("filter", .option describe query.filter),
      ("sort", .option describe query.sort),
      ("search", .option .quoted query.search),
      ("limit", .option describeWord query.limit),
      ("offset", .option describeWord query.offset)]

end Query

end Apicalypse
