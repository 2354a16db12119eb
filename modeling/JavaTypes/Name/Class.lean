/-
**Names of classes.**

A dotted name can name a class unless a primitive keyword occurs in it or its last segment holds a
dollar sign, which in a binary name stands before a nested class.

* `Name.isClassName`: the names of top-level classes.
* `Name.isNestedName`: the names of nested classes, which have one segment.
-/

import JavaTypes.Name
import JavaTypes.Primitive

namespace JavaTypes.Name

/-- Whether no primitive has this keyword. -/
def isNoKeyword (segment : String) : Bool := (Primitive.ofKeyword? segment).isNone

/-- Whether the string names a top-level class: a dotted name in which no segment is a primitive
keyword and the last one has no dollar sign. -/
def isClassName (s : String) : Bool :=
  isQualified s && (segments s).all isNoKeyword && !(lastSegment s).toList.contains '$'

/-- Whether the string names a nested class: a class name of one segment. -/
def isNestedName (s : String) : Bool := isClassName s && !s.toList.contains '.'

end JavaTypes.Name
