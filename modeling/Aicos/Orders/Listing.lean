import Aicos.Commerce.Pagination
import Aicos.Commerce.Schema

namespace Aicos.Orders

open Aicos.Commerce

/-! `OrdersService.list`. -/

structure ListOrdersDto extends PaginationDto where
  status : Option OrderStatus

structure OrderSummary where
  id : OrderId
  number : Nat
  status : OrderStatus
  financialStatus : FinancialStatus
  totalCents : Int
  currency : String
  email : Option String
  itemCount : Nat
  createdAt : Instant
deriving DecidableEq

def orderSummary (order : Order) : OrderSummary where
  id := order.id
  number := order.number
  status := order.status
  financialStatus := order.financialStatus
  totalCents := order.totalCents
  currency := order.currency
  email := order.email
  itemCount := order.items.length
  createdAt := order.createdAt

/-- `orderBy` is how the database orders the rows of this query by `createdAt`. -/
def listOrders (orderBy : List Order → List Order) (query : ListOrdersDto) (db : Db) : PaginatedResult OrderSummary :=
  paginate query.toPaginationDto
    (orderBy (db.orders.filter fun order => query.status.all fun status => order.status = status)) orderSummary

end Aicos.Orders
