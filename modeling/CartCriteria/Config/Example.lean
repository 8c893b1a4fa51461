import CartCriteria.Config.Basic

/-! A configuration to start from. -/
namespace CartCriteria.Config

def smallNumber (n : Nat) (isSmall : n < 1000 := by decide) : Json :=
  .number (.integer n (by omega))

/-- Three rules, the first by name of which is not the default. -/
def sample : Config where
  rules := [
    ("loyal_customer", .object [
      ("customer.orders", .object [("gt", smallNumber 5)]),
      ("customer.status", .string "active")]),
    ("mid_range_basket", .object [
      ("shipping.country", .object [("or", .object [
        ("gt", .string "Z"),
        ("in", .array [.string "FR", .string "BE"])])]),
      ("total", .object [("and", .object [
        ("gte", smallNumber 20),
        ("lte", smallNumber 200)])])]),
    ("summer_sale", .object [
      ("items.category", .object [("in",
        .array [.string "swimwear", .string "sandals", .string "sunglasses"])]),
      ("total", .object [("gte", smallNumber 50)])])]
  rulesSorted := by decide
  settings := { Settings.standard with defaultRule := some "summer_sale" }

end CartCriteria.Config
