import PacketRefusal.Startup.Error

/-!
# The filter expression

The filter is given as any number of arguments. `Filter.build` puts one space behind each of them
and joins them. The driver reads the filter into a buffer of fixed size, so the result has to leave
room for a terminator; lengths count octets of UTF-8.
-/

set_option autoImplicit false
set_option relaxedAutoImplicit false

namespace PacketRefusal.Filter

/-- The size of the buffer for the filter and its terminator. -/
def bufferSize : Nat := 2048

/-- Appends arguments to the part of a filter that is already built. -/
def extend (built : String) : List String → Except StartError String
  | [] => .ok built
  | argument :: rest =>
    if bufferSize ≤ built.utf8ByteSize + argument.utf8ByteSize + 1 then
      .error (.filterTooLong bufferSize)
    else extend (built ++ argument ++ " ") rest

/-- The filter made of some arguments. -/
def build (arguments : List String) : Except StartError String := extend "" arguments

end PacketRefusal.Filter
