import JavadocAudit.ClassTable.Basic

/-!
# The standard exception classes

The throwables of the standard library that are declared or documented most often.
-/

namespace JavadocAudit.ClassTable

/-- Names in a package with a common superclass. -/
def family (package superclass : String) (names : List String) : Dict String (Option String) :=
  names.map fun name => (qualify package name, some superclass)

def standard : ClassTable where
  classes :=
    [("java.lang.Throwable", none),
     ("java.lang.Exception", some "java.lang.Throwable"),
     ("java.lang.Error", some "java.lang.Throwable"),
     ("java.lang.RuntimeException", some "java.lang.Exception")]
    ++ family "java.lang" "java.lang.RuntimeException"
      ["ArithmeticException", "ArrayStoreException", "ClassCastException",
       "IllegalArgumentException", "IllegalStateException", "IndexOutOfBoundsException",
       "NegativeArraySizeException", "NullPointerException", "SecurityException",
       "UnsupportedOperationException"]
    ++ family "java.lang" "java.lang.IndexOutOfBoundsException"
      ["ArrayIndexOutOfBoundsException", "StringIndexOutOfBoundsException"]
    ++ family "java.lang" "java.lang.IllegalArgumentException" ["NumberFormatException"]
    ++ family "java.lang" "java.lang.Exception"
      ["CloneNotSupportedException", "InterruptedException", "ReflectiveOperationException"]
    ++ family "java.lang" "java.lang.ReflectiveOperationException"
      ["ClassNotFoundException", "NoSuchMethodException", "NoSuchFieldException",
       "InstantiationException", "IllegalAccessException"]
    ++ family "java.lang" "java.lang.Error"
      ["AssertionError", "LinkageError", "VirtualMachineError"]
    ++ family "java.lang" "java.lang.VirtualMachineError"
      ["OutOfMemoryError", "StackOverflowError"]
    ++ family "java.io" "java.lang.Exception" ["IOException"]
    ++ family "java.io" "java.io.IOException"
      ["EOFException", "FileNotFoundException", "UnsupportedEncodingException"]
    ++ family "java.io" "java.lang.RuntimeException" ["UncheckedIOException"]
    ++ family "java.util" "java.lang.RuntimeException"
      ["ConcurrentModificationException", "EmptyStackException", "NoSuchElementException"]
    ++ family "java.util" "java.util.NoSuchElementException" ["InputMismatchException"]
    ++ family "java.util.concurrent" "java.lang.Exception"
      ["ExecutionException", "TimeoutException"]
    ++ family "java.util.concurrent" "java.lang.IllegalStateException" ["CancellationException"]

/-- The standard throwables together with configured classes. -/
def withStandard (more : Dict String (Option String)) : ClassTable := standard.withClasses more

end JavadocAudit.ClassTable
