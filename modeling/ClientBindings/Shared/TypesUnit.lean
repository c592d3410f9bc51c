import ClientBindings.Shared.Template

/-!
# TypesUnit — the shared source

The shared source declares the exceptions, the enumerations and the decoding functions of a run.
-/

namespace ClientBindings
namespace Shared

/-- A member of a value in scope. -/
def memberOf (value key : String) : Expr :=
  .member (.name value) key

namespace TypesUnit

/-- A case for each error: its exception is thrown. -/
def errorCase : List Piece :=
  [.text "            case \"",
    .hole (memberOf "error" "name"),
    .lines ["\":"],
    .text "                throw new ",
    .hole (memberOf "error" "class_name"),
    .lines ["(parameters);"]]

/-- An enumeration: its constants with their wire values. -/
def enumPieces : List Piece :=
  [.text "    public enum ",
    .hole (memberOf "enum" "class_name"),
    .lines [" \x7b",
      "        /**",
      "         * The value does not belong to this enumeration",
      "         */",
      "        @JsonEnumDefaultValue"],
    .text "        UNRECOGNIZED",
    .choose (.values (.name "enum"))
      [.text ","]
      [.text ";"],
    .lines [""],
    .each "value" (.values (.name "enum")) [
      .lines ["        /**"],
      .text "         * ",
      .hole (memberOf "value" "description"),
      .lines ["",
        "         */"],
      .text "        @JsonProperty(\"",
      .hole (memberOf "value" "name"),
      .lines ["\")"],
      .text "        ",
      .hole (memberOf "value" "name_uppercase"),
      .choose (.member (.name loopName) "last")
        [.text ";"]
        [.text ","],
      .lines [""]],
    .lines ["",
      "        public String toString() \x7b"],
    .each "value" (.values (.name "enum")) [
      .text "            if (this == ",
      .hole (memberOf "value" "name_uppercase"),
      .text ") return \"",
      .hole (memberOf "value" "name"),
      .lines ["\";"]],
    .lines ["            return \"illegal enum\";",
      "        \x7d",
      "    \x7d",
      ""]]

/-- An exception: its fields and the constructor that fills them. -/
def errorPieces : List Piece :=
  [.lines ["    /**"],
    .text "     * ",
    .hole (memberOf "error" "description"),
    .lines ["",
      "     */"],
    .text "    public static class ",
    .hole (memberOf "error" "class_name"),
    .lines [" extends XenAPIException \x7b"],
    .each "param" (memberOf "error" "err_params") [
      .text "        public final String ",
      .hole (memberOf "param" "name"),
      .lines [";"]],
    .lines ["",
      "        /**"],
    .text "         * Create a new ",
    .hole (memberOf "error" "class_name"),
    .lines [" from the error's parameters, in declared order",
      "         */"],
    .text "        public ",
    .hole (memberOf "error" "class_name"),
    .lines ["(String[] parameters) \x7b"],
    .text "            super(\"",
    .hole (memberOf "error" "name"),
    .lines ["\", parameters);"],
    .each "param" (memberOf "error" "err_params") [
      .text "            this.",
      .hole (memberOf "param" "name"),
      .text " = parameters.length > ",
      .hole (memberOf "param" "index"),
      .text " ? parameters[",
      .hole (memberOf "param" "index"),
      .lines ["] : null;"]],
    .lines ["        \x7d",
      "    \x7d",
      ""]]

/-- A function that decodes a type, and for a reference the one that decodes the result of a
task. -/
def typePieces : List Piece :=
  [.choose (memberOf "type" "suppress_unchecked_warning")
      [.lines ["    @SuppressWarnings(\"unchecked\")"]]
      [],
    .text "    public static ",
    .hole (memberOf "type" "name"),
    .text " ",
    .hole (memberOf "type" "method_name"),
    .lines ["(Object object) \x7b",
      "        if (object == null) \x7b",
      "            return null;",
      "        \x7d"],
    .text "        ",
    .hole (memberOf "type" "method_body"),
    .lines ["",
      "    \x7d",
      ""],
    .choose (memberOf "type" "generate_reference_task_result_func")
      [.text "    public static ",
       .hole (memberOf "type" "name"),
       .text " ",
       .hole (memberOf "type" "method_name"),
       .lines ["(Task task, Connection connection) throws IOException \x7b"],
       .text "        return ",
       .hole (memberOf "type" "method_name"),
       .lines ["(parseResult(task.getResult(connection)));",
         "    \x7d",
         ""]]
      []]

/-- The whole source. -/
def template : List Piece :=
  [.hole (.name "licence"),
    .lines ["",
      ""],
    .text "package ",
    .hole (.name "java_package"),
    .lines [";",
      "",
      "import com.fasterxml.jackson.annotation.JsonEnumDefaultValue;",
      "import com.fasterxml.jackson.annotation.JsonProperty;",
      "import java.io.IOException;",
      "import java.util.*;",
      "",
      "/**",
      " * This class holds enum types and exceptions used in the API.",
      " * Also contains the methods that convert wire objects into typed values.",
      " */",
      "public class Types",
      "\x7b",
      "    /**",
      "     * Interface for all Record classes",
      "     */",
      "    public interface Record",
      "    \x7b",
      "        /**",
      "         * Convert a Record to a Map",
      "         */",
      "        Map<String, Object> toMap();",
      "    \x7d",
      "",
      "    /**",
      "     * Base class for all XenAPI Exceptions",
      "     */",
      "    public static class XenAPIException extends IOException \x7b",
      "        public final String shortDescription;",
      "        public final String[] errorDescription;",
      "",
      "        XenAPIException(String shortDescription) \x7b",
      "            this.shortDescription = shortDescription;",
      "            this.errorDescription = null;",
      "        \x7d",
      "",
      "        XenAPIException(String shortDescription, String[] errorDescription) \x7b",
      "            this.shortDescription = shortDescription;",
      "            this.errorDescription = errorDescription;",
      "        \x7d",
      "",
      "        public String toString() \x7b",
      "            if (errorDescription == null) \x7b",
      "                return shortDescription;",
      "            \x7d",
      "            return shortDescription + \" \" + String.join(\" \", errorDescription);",
      "        \x7d",
      "    \x7d",
      "",
      "    /**",
      "     * Thrown if the response from the server contains an invalid status.",
      "     */",
      "    public static class BadServerResponse extends XenAPIException \x7b",
      "        public BadServerResponse(String[] errorDescription) \x7b",
      "            super(\"Invalid server response\", errorDescription);",
      "        \x7d",
      "    \x7d",
      "",
      "    /**",
      "     * Throws the typed exception matching a failed call's error description.",
      "     * The first element is the error name, the rest are its parameters.",
      "     */",
      "    public static void checkError(String[] errorData) throws XenAPIException \x7b",
      "        if (errorData == null || errorData.length == 0) \x7b",
      "            throw new XenAPIException(\"Unknown error\");",
      "        \x7d",
      "        String[] parameters = Arrays.copyOfRange(errorData, 1, errorData.length);",
      "        switch (errorData[0]) \x7b"],
    .each "error" (.name "errors") errorCase,
    .lines ["            default:",
      "                throw new XenAPIException(errorData[0], parameters);",
      "        \x7d",
      "    \x7d",
      "",
      "    private static String parseResult(String result) \x7b",
      "        return result.replace(\"<value>\", \"\").replace(\"</value>\", \"\");",
      "    \x7d",
      ""],
    .each "enum" (.name "enums") enumPieces,
    .each "error" (.name "errors") errorPieces,
    .each "type" (.name "types") typePieces,
    .lines ["\x7d"]]

end TypesUnit
end Shared
end ClientBindings
