namespace SchemaProjection

inductive FieldReference where
  | cart | category | channel | customer | keyValueDocument | order | product | productType
  | review | shippingMethod | state | zone | unknown
  deriving DecidableEq, Repr

namespace FieldReference

def all : List FieldReference :=
  [cart, category, channel, customer, keyValueDocument, order, product, productType, review,
   shippingMethod, state, zone]

def name : FieldReference → String
  | cart => "cart"
  | category => "category"
  | channel => "channel"
  | customer => "customer"
  | keyValueDocument => "key-value-document"
  | order => "order"
  | product => "product"
  | productType => "product-type"
  | review => "review"
  | shippingMethod => "shipping-method"
  | state => "state"
  | zone => "zone"
  | unknown => "unknown"

def ofName (s : String) : FieldReference :=
  (all.find? (·.name == s)).getD unknown

theorem ofName_name (k : FieldReference) : ofName k.name = k := by
  cases k <;> rfl

end FieldReference

inductive AttributeReference where
  | cart | cartDiscount | category | channel | customer | customerGroup | discountCode
  | inventoryEntry | keyValueDocument | order | orderEdit | payment | product | productDiscount
  | productSelection | productType | review | shippingMethod | shoppingList | state | store
  | taxCategory | customType | zone | unknown
  deriving DecidableEq, Repr

namespace AttributeReference

def all : List AttributeReference :=
  [cart, cartDiscount, category, channel, customer, customerGroup, discountCode, inventoryEntry,
   keyValueDocument, order, orderEdit, payment, product, productDiscount, productSelection,
   productType, review, shippingMethod, shoppingList, state, store, taxCategory, customType, zone]

def name : AttributeReference → String
  | cart => "cart"
  | cartDiscount => "cart-discount"
  | category => "category"
  | channel => "channel"
  | customer => "customer"
  | customerGroup => "customer-group"
  | discountCode => "discount-code"
  | inventoryEntry => "inventory-entry"
  | keyValueDocument => "key-value-document"
  | order => "order"
  | orderEdit => "order-edit"
  | payment => "payment"
  | product => "product"
  | productDiscount => "product-discount"
  | productSelection => "product-selection"
  | productType => "product-type"
  | review => "review"
  | shippingMethod => "shipping-method"
  | shoppingList => "shopping-list"
  | state => "state"
  | store => "store"
  | taxCategory => "tax-category"
  | customType => "type"
  | zone => "zone"
  | unknown => "unknown"

def ofName (s : String) : AttributeReference :=
  (all.find? (·.name == s)).getD unknown

theorem ofName_name (k : AttributeReference) : ofName k.name = k := by
  cases k <;> rfl

end AttributeReference

end SchemaProjection
