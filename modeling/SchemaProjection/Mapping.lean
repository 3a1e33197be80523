import SchemaProjection.Naming
import SchemaProjection.Output.Type
import SchemaProjection.Schema.Index

namespace SchemaProjection

def FieldReference.sdk : FieldReference → SdkType
  | .cart => ⟨"cart", "CartReference"⟩
  | .category => ⟨"category", "CategoryReference"⟩
  | .channel => ⟨"channel", "ChannelReference"⟩
  | .customer => ⟨"customer", "CustomerReference"⟩
  | .keyValueDocument => ⟨"custom_object", "CustomObjectReference"⟩
  | .order => ⟨"order", "OrderReference"⟩
  | .product => ⟨"product", "ProductReference"⟩
  | .productType => ⟨"product_type", "ProductTypeReference"⟩
  | .review => ⟨"review", "ReviewReference"⟩
  | .shippingMethod => ⟨"shipping_method", "ShippingMethodReference"⟩
  | .state => ⟨"state", "StateReference"⟩
  | .zone => ⟨"zone", "ZoneReference"⟩
  | .unknown => .reference

def AttributeReference.sdk : AttributeReference → SdkType
  | .cart => ⟨"cart", "CartReference"⟩
  | .cartDiscount => ⟨"cart_discount", "CartDiscountReference"⟩
  | .category => ⟨"category", "CategoryReference"⟩
  | .channel => ⟨"channel", "ChannelReference"⟩
  | .customer => ⟨"customer", "CustomerReference"⟩
  | .customerGroup => ⟨"customer_group", "CustomerGroupReference"⟩
  | .discountCode => ⟨"discount_code", "DiscountCodeReference"⟩
  | .inventoryEntry => ⟨"inventory", "InventoryEntryReference"⟩
  | .keyValueDocument => ⟨"custom_object", "CustomObjectReference"⟩
  | .order => ⟨"order", "OrderReference"⟩
  | .orderEdit => ⟨"order_edit", "OrderEditReference"⟩
  | .payment => ⟨"payment", "PaymentReference"⟩
  | .product => ⟨"product", "ProductReference"⟩
  | .productDiscount => ⟨"product_discount", "ProductDiscountReference"⟩
  | .productSelection => ⟨"product_selection", "ProductSelectionReference"⟩
  | .productType => ⟨"product_type", "ProductTypeReference"⟩
  | .review => ⟨"review", "ReviewReference"⟩
  | .shippingMethod => ⟨"shipping_method", "ShippingMethodReference"⟩
  | .shoppingList => ⟨"shopping_list", "ShoppingListReference"⟩
  | .state => ⟨"state", "StateReference"⟩
  | .store => ⟨"store", "StoreReference"⟩
  | .taxCategory => ⟨"tax_category", "TaxCategoryReference"⟩
  | .customType => ⟨"types", "TypeReference"⟩
  | .zone => ⟨"zone", "ZoneReference"⟩
  | .unknown => .reference

def FieldType.shape : FieldType → Shape
  | .boolean => .primitive .boolean
  | .string => .primitive .string
  | .localizedString => .sdk .localizedString
  | .enum => .sdk .fieldEnumValue
  | .localizedEnum => .sdk .fieldLocalizedEnumValue
  | .number => .primitive .int
  | .money => .sdk .typedMoney
  | .date => .primitive .date
  | .time => .primitive .time
  | .dateTime => .primitive .dateTime
  | .reference kind => .sdk kind.sdk
  | .set element => .set true element.shape
  | .unknown => .any

/-- A custom field may always be absent. -/
def FieldType.output (t : FieldType) : OutputType :=
  ⟨t.shape, true⟩

def Schema.nestedShape (s : Schema) (c : Configuration) (id : String) :
    Except GenerationError Shape :=
  match s.productType? id with
  | some p => (c.className .variantAttributes p.identity).map .generated
  | none => .ok .attributeList

/-- Elements may be absent where the whole may. -/
def AttributeType.shape (s : Schema) (c : Configuration) (required : Bool) :
    AttributeType → Except GenerationError Shape
  | .boolean => .ok (.primitive .boolean)
  | .text => .ok (.primitive .string)
  | .localizedText => .ok (.sdk .localizedString)
  | .enum => .ok (.sdk .attributeEnumValue)
  | .localizedEnum => .ok (.sdk .attributeLocalizedEnumValue)
  | .number => .ok (.primitive .double)
  | .money => .ok (.sdk .typedMoney)
  | .date => .ok (.primitive .date)
  | .time => .ok (.primitive .time)
  | .dateTime => .ok (.primitive .dateTime)
  | .reference kind => .ok (.sdk kind.sdk)
  | .set element => (shape s c required element).map (.set !required)
  | .nested id => s.nestedShape c id
  | .unknown => .ok .any

def AttributeType.output (s : Schema) (c : Configuration) (required : Bool) (t : AttributeType) :
    Except GenerationError OutputType :=
  (t.shape s c required).map (⟨·, !required⟩)

end SchemaProjection
