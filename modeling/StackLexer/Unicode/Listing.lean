import StackLexer.Unicode.Property

namespace StackLexer.Unicode

-- A set of characters with the names that it can be asked for by. The set is made when it is asked
-- for.
structure Listing where
  names : List String
  chars : Thunk CharSet

namespace Listing

def chars? (listings : List Listing) (name : String) : Option CharSet :=
  (listings.find? fun listing => listing.names.contains name).map fun listing => listing.chars.get

end Listing

end StackLexer.Unicode
