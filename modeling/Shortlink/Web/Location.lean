import Shortlink.Text.Percent

/-!
# Locations

How a place is written in a response that sends the reader there, and how the path of a request is
written back.

## Contents

- `location`: a URL as it stands in a response.
- `quotePath`: a decoded path in its written form.
- `searchPage`: the page that offers what resembles a lookup.
-/

namespace Shortlink.Web

open Text

/-- A character that may stand in a location as it is. -/
def isLocationChar (c : Char) : Bool :=
  Percent.isUnreserved c || ":/%#?=@[]!$&'()*+,;".toList.contains c

/-- A URL as it stands in a response: printable ASCII without spaces. -/
def location (url : List Char) : List Char :=
  Percent.encode isLocationChar url

/-- A character that may stand in a path as it is. -/
def isPathChar (c : Char) : Bool :=
  Percent.isUnreserved c || "/%:@!$&'()*+,;=".toList.contains c

/-- The written form of a decoded path. Percent signs are left alone. -/
def quotePath (path : List Char) : List Char :=
  Percent.encode isPathChar path

/-- The page of the user interface. -/
def uiLocation : String := "/_gadget/ui"

/-- The page that searches for a text. -/
def searchPage (text : List Char) : List Char :=
  uiLocation.toList ++ "?search=".toList ++ Percent.encodeForm text

end Shortlink.Web
