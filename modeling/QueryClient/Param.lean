import QueryClient.Value.Basic

/-!
# Statement parameters

A parameter is a value, or an instant with a zone that is sent as the date, the time of day or
the date-time that the zone's wall clock shows.
-/

namespace QueryClient

/-- A statement parameter. -/
inductive Param where
  | value (v : Value)
  | zonedDate (i : ZonedInstant)
  | zonedTime (i : ZonedInstant)
  | zonedDatetime (i : ZonedInstant)

/-- The wire type that a parameter is sent as. -/
def Param.typeName : Param → String
  | .value v => v.datatype.typeName
  | .zonedDate _ => Datatype.date.typeName
  | .zonedTime _ => Datatype.time.typeName
  | .zonedDatetime _ => Datatype.datetime.typeName

end QueryClient
