/-! Names of the characters of Unicode 14 from `U+2000` to `U+2FFF`, as `TextName` reads them. -/
namespace FlowSketch.TextNameSymbols

/-- Entries for consecutive characters, from the given one on. -/
def blocks : List (Nat × List String) := [
  (0x2000, ["aEN QUADb&MbN SPACEb(Ma*THREE-PER-a;FOURa;SIXa(FIGUREa(PUNCTUATIONa)THIa(HAIRa(ZERO WIDTHlNON-JOINERl(",
    "aLEFT-TO-RIGHT MARKa(RIGHT-TO-LEFaHYPHENa(NON-BREAKING aFIGURE DASHa&ENb&MaHORIZONTAL BARaDOUBLE VERTICAL LINE",
    "h&LOWaLEFT SINGLE QUOTATION MARKa|RIGHTa=SINGLE LOW-9h?HIGH-REVERSEDa=LEFT DOUBLEa|RIGHTa=DOUBLE LOW-9",
    "h?HIGH-REVERSEDbAGGERa(DOUBLE aBULLETa(TRIANGULAR aONE DOT LEADERa.TWOaHORIZONTAL ELLIPSISbYPHENATION POINT",
    "aLINE SEPARATORa,PARAGRAPHaLEFT-TO-RIGHT EMBEDDINGa.RIGHT-TO-LEFa$POP DIRECTIONAL FORMATTaLEFT-TO-RIGHT OVERRIDE",
    "a,RIGHT-TO-LEFaNARROW NO-BREAK SPACEaPER MILLE SIGNe&TEN THOUSANDbRIMEa&DOUBLE a*TRIPa(REVERSEDi( DOUBLEj*TRIP",
    "aCARETaSINGLE LEFT-POINTING ANGLE QUOTATION MARKh|+RIGHa&REFERENCEa&DOUBLE EXCLAMATIONaINTERROBANGaOVERLINE",
    "aUNDERTIEa$CHARACTER bARET INSERTION POINTaASTERISMaHYPHEN BULLETaFRACTION SLASHaLEFT SQUARE BRACKET WITH QUILL",
    "a|&RIGHaDOUBLE QUESTION MARKa+QUESTION EXCLAMAa+EXCLAMATION QUESaTIRONIAN SIGN ETaREVERSED PILCROW SIGN",
    "aBLACK LEFTWARDS BULLETg;RIGHaLOW ASTERISKaREVERSED SEMICOLONaCLOSE UPaTWO ASTERISKS ALIGNED VERTICALLY",
    "aCOMMERCIAL MINUS SIGNaSWUNG DASHaINVERTED UNDERTIEaFLOWER PUNCTUATION MARKaTHREE DOT PUNCTUATION",
    "aQUADRUPLE PRIMEaFOUR DOT PUNCTUATIONb>IVEa>TWOaFOUR DOT MARKaDOTTED CROSSaTRICOLONaVERTICAL FOUR DOTS",
    "aMEDIUM MATHEMATICAL SPACEaWORD JOINERaFUNCTION APPLICATIONaINVISIBLE TIMESkSEPARATORkPLUS_",
    "aLEFT-TO-RIGHT ISOLATEa+RIGHT-TO-LEFa*FIRST STRONGa*POP DIRECTIONALaINHIBIT SYMMETRIC SWAPPINGa[ACTIVATE",
    "a%INHIBIT ARABIC FORM SHAa]ACTIVATEaNATIONAL DIGIT SHAPESb>OMIaSUPERSCRIPT ZEROmLATIN SMALL LETTER I__mFOURnIVE",
    "mSIXnEVENmEIGHTmNINEmPLUS SIGNmMINUSmEQUALS SIGNmLEFT PARENTHESISm;RIGHmLATIN SMALL LETTER NcBSCRIPT ZEROkONE",
    "kTWOlHREEkFOURlIVEkSIXlEVENkEIGHTkNINEkPLUS SIGNkMINUSkEQUALS SIGNkLEFT PARENTHESISk;RIGH_",
    "aLATIN SUBSCRIPT SMALL LETTER AzeEzeOzeXzeSCHWAzeHzeK~~~zePzeS~___aEURO-CURRENCY SIGNa&COLONb&RUZEIRO",
    "a&FRENCH FRANCa&LIRAa&MILLa&NAIRAa(PESETa&RUPEEa&WONa&NEW SHEQELa&DONGa&EUROa&KIPa&TUGRIKa&DRACHMAa&GERMAN PENNY",
    "a&PESOa&GUARANIa&AUSTRALa&HRYVNIAa&CEDIa&LIVRE TOURNOISa&SPESMILOa&TENGEa(INDIAN RUPEa&TURKISH LIRAa&NORDIC MARK",
    "a&MANATa&RUBLEa&LARIa&BITCOINa&SOM"]),
  (0x20D0, ["aCOMBINING LEFT HARPOON ABOVEk=RIGHkLONG VERTICAL LINE OVERLAYk|SHORTkANTICLOCKWISE ARROW ABOVEk^k:LEFT",
    "k;RIGHmNG OVERLAYj; CLOCKWISEk|ANTIkTHREE DOTS ABOVEk.FOURkENCLOSING CIRCLEuSQUAREuDIAMONDuCIRCLE BACKSLASH",
    "kLEFT RIGHT ARROW ABOVEkENCLOSING SCREENuKEYCAPuUPWARD POINTING TRIANGLEkREVERSE SOLIDUS OVERLAY",
    "k*DOUBLE VERTICAL STROKEkANNUITY SYMBOLkTRIPLE UNDERDOTkWIDE BRIDGE ABOVEkLEFTWARDS ARROW OVERLAY",
    "l*ONG DOUBLE SOLIDUSkRIGHTWARDS HARPOON WITH BARB DOWNWARDSk|:LEFo ARROW BELOWk;RIGHkASTERISK ABOVE"]),
  (0x2100, ["aACCOUNT OFbDDRESSED TO THE SUBJECTaDOUBLE-STRUCK CAPITAL CbEGREE CELSIUSaCENTRE LINE SYMBOLbARE OF",
    "cDA UNAaEULER CONSTANTaSCRUPLEaDEGREE FAHRENHEITaSCRIPT SMALL GhCAPITAL Ha,BLACK-LETTERa,DOUBLE-STRUCK",
    "aPLANCK CONSTANTp OVER TWO PIaSCRIPT CAPITAL Ia,BLACK-LETTERaSCRIPT CAPITAL Lh$SMALaL B BAR SYMBOL",
    "aDOUBLE-STRUCK CAPITAL NaNUMERO SIGNaSOUND RECORDING COPYRIGHTbCRIPT CAPITAL Pa,DOUBLE-STRUCK~aSCRIPT CAPITAL R",
    "a,BLACK-LETTERa,DOUBLE-STRUCKaPRESCRIPTION TAKEaRESPONSEaSERVICE MARKaTELEPHONE SIGNb&RADE MARKaVERSICLE",
    "aDOUBLE-STRUCK CAPITAL ZaOUNCE SIGNb&HMa*INVERTED aBLACK-LETTER CAPITAL ZaTURNED GREEK SMALL LETTER IOTA",
    "aKELVIN SIGNa&ANGSTROMaSCRIPT CAPITAL BaBLACK-LETTER CAPITAL CaESTIMATED SYMBOLaSCRIPT SMALL Eh$CAPITA~a,TURNED",
    "aSCRIPT CAPITAL MhSMALL OaALEF SYMBOLa)BETa)GIMELa)DALETaINFORMATION SOURCEaROTATED CAPITAL QaFACSIMILE SIGN",
    "aDOUBLE-STRUCK SMALL PIuGAMMAo)CAPITAwPIoN-ARY SUMMATIONaTURNED SANS-SERIF CAPITAL Gz La|REVERSE",
    "aTURNED SANS-SERIF CAPITAL YaDOUBLE-STRUCK ITALIC CAPITAL Dv$SMAL~zcI~aPROPERTY LINEaTURNED AMPERSANDaPER SIGN",
    "aAKTIESELSKABaTURNED SMALL FaSYMBOL FOR SAMARITAN SOURCEaVULGAR FRACTION ONE SEVENTHu$NIu$TEvHIRDqTWO THIRDS",
    "qONE FIFTHqTWO FIFTHSr)HREEq)FOURqONE SIXTHqFIVE SIXTHSqONE EIGHTHqTHREE EIGHTHSq+FIVq*SEVEN",
    "aFRACTION NUMERATOR ONEa%ROMAN NUMERALoTWOpHREEoFOURpIVEoSIXpEVENoEIGHToNINEoTENo#ELEVoTWELVEoFIFTYoONE HUNDRED",
    "o+FIVoONE THOUSANDaSMALL ROMAN NUMERAL ONEuTWOvHREEuFOURvIVEuSIXvEVENuEIGHTuNINEuTENu#ELEVuTWELVEuFIFTY",
    "uONE HUNDREDu+FIVuONE THOUSANDaROMAN NUMERAL ONE THOUSAND C DoFIVE THOUSANDo+TENoREVERSED ONE HUNDRED",
    "aLATIN SMALL LETTER REVERSED CaROMAN NUMERAL SIX LATE FORMo&FIFTY EARLYuTHOUSANDo+ONE HUNDRED",
    "aVULGAR FRACTION ZERO THIRDSaTURNED DIGIT TWOoHREE____aLEFTWARDS ARROWa.UPa.RIGHTa.DOWNa(LEFT RIGHTa(UP DOWN",
    "a(NORTH WESTg*EAa;SOUg*WEaLEFTWARDS ARROW WITH STROKEa|#RIGHaLEFTWARDS WAVE ARROWa?RIGHa(LEFTWARDS TWO HEADED",
    "a|UPa|RIGHTa|DOWNaLEFTWARDS ARROW WITH TAILa|RIGHaLEFTWARDS ARROW FROM BARa]UPa]RIGHTa]DOWN",
    "aUP DOWN ARROW WITH BASEaLEFTWARDS ARROW WITH HOOKa|RIGHaLEFTWARDS ARROW WITH LOOPa|RIGHaLEFT RIGHT WAVE ARROW",
    "lARROW WITH STROKEaDOWNWARDS ZIGZAG ARROWaUPWARDS ARROW WITH TIP LEFTWARDSx(RIGHa(DOWNWARDS ARROW WITH TIP LEF",
    "z(RIGHa&RIGHTWARDS ARROW WITH CORNER DOWNa&DOWNWARDS ARROW WITH CORNER LEFTaANTICLOCKWISE TOP SEMICIRCLE ARROW",
    "a|*aNORTH WEST ARROW TO LONG BARa%LEFTWARDS ARROW TO BAR OVER RIGHTWARDS ARROW TO",
    "aANTICLOCKWISE OPEN CIRCLE ARROWa|&aLEFTWARDS HARPOON WITH BARB UPWARDSzd&DOWNa&UPWARDS HARPOON WITH BARB RIGHT",
    "z( LEFa&RIGHTWARDS HARPOON WITH BARB UPze&DOWNa&DOWNWARDS HARPOON WITH BARB RIGHTzd(LEF",
    "aRIGHTWARDS ARROW OVER LEFTWARDS ARROWa.UPWARDS ARROW LEFTWARDS OF DOWNa.LEFTWARDS ARROW OVER RIGHT",
    "kPAIRED ARROWSa[UPa[RIGHTa[DOWNaLEFTWARDS HARPOON OVER RIGHTWARDS HARPOONa<RIGHTWARDS HARPOON OVER LEF",
    "aLEFTWARDS DOUBLE ARROW WITH STROKEe|$ RIGHTa|$RIGHTWARDSaLEFTWARDS DOUBLE ARROWa@UPa@RIGHTa@DOWNa;LEFT RIGHT",
    "a;UP DOWNa;NORTH WESTg=EAa]SOUg=WEa*LEFTWARDS TRIPa[RIGHa*LEFTWARDS SQUIGGa^RIGH",
    "aUPWARDS ARROW WITH DOUBLE STROKEa|*DOWNaLEFTWARDS DASHED ARROWa@UPa@RIGHTa@DOWNaLEFTWARDS ARROW TO BARa[RIGH",
    "aLEFTWARDS WHITE ARROWa?UPa?RIGHTa?DOWNaUPWARDS WHITE ARROW FROM BARuON PEDESTALzg WITH HORIZONTAL BARzm(VERTIC",
    "oDOUBLE ARROWzW ON PEDESTALaRIGHTWARDS WHITE ARROW FROM WALLaNORTH WEST ARROW TO CORNERa@SOUTH EA",
    "aUP DOWN WHITE ARROWaRIGHT ARROW WITH SMALL CIRCLEaDOWNWARDS ARROW LEFTWARDS OF UPWARDS ARROW",
    "aTHREE RIGHTWARDS ARROWSaLEFTWARDS ARROW WITH VERTICAL STROKEa|.RIGHa|&LEFT RIGHTe>WARDS ARROW WITH DOUBLE",
    "a|@RIGHa|:LEFT RIGHTeWARDS OPEN-HEADED ARROWa|#RIGHa@LEFT RIGHTaFOR ALLaCOMPLEMENTaPARTIAL DIFFERENTIAL",
    "aTHERE EXISTSgDOES NOT EXISTaEMPTY SETaINCREMENTaNABLAaELEMENT OFa,NOT AN a.SMALLaCONTAINS AS MEMBER",
    "a,DOES NOT CONTAINa,SMALL CONTAINSaEND OF PROOFaN-ARY PRODUCTg)COgSUMMATIONaMINUS SIGNd)US-OR-PLaDOT PLUS",
    "bIVISION SLASHaSET MINUSaASTERISK OPERATORa+RINGa+BULLETaSQUARE ROOTa(CUBa&FOURTHaPROPORTIONAL TOaINFINITY",
    "aRIGHT ANGLEa&a&MEASURED a(SPHERICALaDIVIDESbOES NOT DIVIDEaPARALLEL TOa.NOT aLOGICAL ANDiORaINTERSECTIONa$UN",
    "aINTEGRALa*DOUBLE a.TRIPa+CONTOURa+SURFACEa,VOLUMa,CLOCKWISj+ CONTOURa|%ANTIaTHEREFOREaBECAUSEaRATIOaPROPORTION",
    "aDOT MINUSaEXCESSaGEOMETRIC PROPORTIONaHOMOTHETICaTILDE OPERATORaREVERSED TILDEaINVERTED LAZY SaSINE WAVE",
    "aWREATH PRODUCTaNOT TILDEa(MINUSaASYMPTOTICALLY EQUAL TOa|NOT Aa.APPROXIMATEl.LY BUT NOT ACTUAL",
    "a@NEITHER APPROXIMATELY NORa+ALMOSTa=NOT a+ALMOST EQUAL ORaTRIPLE TILDEaALL EQUAL TOa$EQUIVALENTa;GEOMETRICALLY ",
    "aDIFFERENCE BETWEENaAPPROACHES THE LIMITaGEOMETRICALLY EQUAL TOaAPPROXIMATELY EQUAL TO OR THE IMAGE OF",
    "aIMAGE OF OR APPROXIMATELY EQUAL TOaCOLON EQUALSaEQUALS COLONaRING IN EQUAL TOe+a$CORRESPONDSaESTIMATES",
    "bQUIANGULAR TOaSTAR EQUALSaDELTA EQUAL TOaEQUAL TO BY DEFINITIONaMEASURED BYaQUESTIONED EQUAL TOa+NOTa&IDENTIC",
    "a:NOT a$STRICTLY EQUIVALENTa$LESS-THAN OR EQUALa?GREATERa,LESS-THAN OVEa[GREATERa+LESS-THAN BUT NOTa|GREATER",
    "aMUCH LESS-THANf&GREATERaBETWEENaNOT EQUIVALENT TOeLESS-THANe&GREATERbEITHER LESS-THAN NOR EQUAL TOi@GREATER",
    "a$LESS-THAN OR EQUIVALENTa|GREATERa>NEITHER LESS-THAN Ni|GREATER-aLESS-THAN OR GREATER-THAN",
    "a&GREATER-THAN OR LESSa&NEITHER LESS-THAN NOR GREATERi&GREATER-THAN NOR LESSaPRECEDESaSUCCEEDS",
    "aPRECEDES OR EQUAL TOa;SUCCEEDa$PRECEDES OR EQUIVALENTa@SUCCEEDaDOES NOT PRECEDEjSUCCEEDaSUBSET OFc(PER",
    "a(NOT A SUBi(PERaSUBSET OF OR EQUAL TOc@PERa.NEITHER A SUBSET OF Nm[PERa+SUBSET OF WITH NOTc|#PERaMULTISET",
    "i MULTIPLICATIONj$UNaSQUARE IMAGE OFh$ORIGINALhIMAGE OF OR EQUAL TOh=ORIGINALhCAPiUPaCIRCLED PLUSi#MINiTIMES",
    "iDIVISION SLASHjOT OPERATORi+RINGi+ASTERISKiEQUALSiDASHaSQUARED PLUSi#MINiTIMESiDOT OPERATORaRIGHT TACKa(LEF",
    "a&DOWNa&UPaASSERTIONaMODELSaTRUEaFORCESaTRIPLE VERTICAL BAR RIGHT TURNSTILEa>DOUBLE VERTICAL BAR DOUBLE",
    "cES NOT PROVEaNOT TRUEaDOES NOT FORCEaNEGATED DOUBLE VERTICAL BAR DOUBLE RIGHT TURNSTILEaPRECEDES UNDER RELATION",
    "a>SUCCEEDaNORMAL SUBGROUP OFaCONTAINS AS NORMAL SUBGROUPaNORMAL SUBGROUP OF OR EQUAL TO",
    "a:CONTAINS AS NORMAL SUBGROUPaORIGINAL OFa$IMAGEaMULTIMAPaHERMITIAN CONJUGATE MATRIXaINTERCALATEaXORaNANDbOR",
    "aRIGHT ANGLE WITH ARCgTRIANGLEaN-ARY LOGICAL ANDoORgINTERSECTIONg$UNaDIAMOND OPERATORb+OTa+STARaDIVISION TIMES",
    "aBOWTIEaLEFT NORMAL FACTOR SEMIDIRECT PRODUCTa|:RIGHa[LEFTa]RIGHbEVERSED TILDE EQUALSaCURLY LOGICAL ORoAND",
    "aDOUBLE SUBSETj$PERhINTERSECTIONh$UNaPITCHFORKaEQUAL AND PARALLEL TOaLESS-THAN WITH DOTa<GREATER",
    "aVERY MUCH LESS-THANk&GREATERa;LESS-THAN EQUAL TO ORa&GREATER-THAN EQUAL TO OR LESSa^m&GREATERmPRECEDESmSUCCEEDS",
    "aDOES NOT PRECEDE OR EQUALj+SUCCEEDaNOT SQUARE IMAGE OF OR EQUAL TOl=ORIGINALa+SQUARE IMAGE OF OR NOTh[ORIGINAL",
    "a$LESS-THAN BUT NOT EQUIVALENTa|&GREATERa|PRECEDESa|SUCCEEDSaNOT NORMAL SUBGROUP OF",
    "aDOES NOT CONTAIN AS NORMAL SUBGROUPaNOT NORMAL SUBGROUP OF OR EQUAL TO",
    "aDOES NOT CONTAIN AS NORMAL SUBGROUP OR EQUALaVERTICAL ELLIPSISa.MIDLINE HORIZONTa.UP RIGHT DIAGONa|#DOWN",
    "aELEMENT OF WITH LONG HORIZONTAL STROKEq@VERTICAL BAR AT END OFa||:SMALL aELEMENT OF WITH DOT ABOVEqOVERBAR",
    "a|SMALL Ea&ELEMENT OF WITH UNDqTWO HORIZONTAL STROKESaCONTAINS WITH LONG HORIZONTAL STROKE",
    "o@VERTICAL BAR AT END OFa||,SMALL aCONTAINS WITH OVERBARa^SMALL aZ NOTATION BAG MEMBERSHIPaDIAMETER SIGN",
    "aELECTRIC ARROWaHOUSEaUP ARROWHEADa,DOWNaPROJECTIVEb(ERSPaWAVY LINEaLEFT CEILINGa+RIGHaLEFT FLOORa)RIGH",
    "aBOTTOM RIGHT CROPh(LEFa(TOP RIGHe(LEFaREVERSED NOT SIGNaSQUARE LOZENGEaARCaSEGMENTcCTORaTELEPHONE RECORDER",
    "aPOSITION INDICATORaVIEWDATA SQUAREaPLACE OF INTEREST SIGNa(TURNED NOaWATCHaHOURGLASSaTOP LEFT CORNERe*RIGH",
    "a*BOTTOM LEFh*RIGHaTOP HALF INTEGRALa<BOTTOMaFROWNaSMILEaUP ARROWHEAD BETWEEN TWO HORIZONTAL BARSaOPTION KEY",
    "aERASE TO THE RIGHTaX IN A RECTANGLE BOXaKEYBOARDaLEFT-POINTING ANGLE BRACKETa|#RIGHaERASE TO THE LEFT",
    "aBENZENE RINGaCYLINDRICITYaALL AROUND-PROFILEaSYMMETRYaTOTAL RUNOUTaDIMENSION ORIGINaCONICAL TAPERaSLOPE",
    "aCOUNTERBOREhSINKaAPL FUNCTIONAL SYMBOL I-BEAMwSQUISH QUADwQUAD EQUALzcDIVIDEzeAMONDzcJOTzcCIRCLEw#CIRCLE STI",
    "zeJOTwSLASH BARw+BACKwQUAD SLASHzc&BACKzcLESS-THANzc&GREATERwLEFTWARDS VANEw.RIGHwQUAD LEFTWARDS ARROWzc:RIGH",
    "wCIRCLE BACKSLASHwDOWN TACK UNDERBARxELTA STILEwQUAD DOWN CARETzdELTAwDOWN TACK JOTwUPWARDS VANE",
    "wQUAD UPWARDS ARROWwUP TACK OVERBARwDEL STILEwQUAD UP CARETzcDELwUP TACK JOTwDOWNWARDS VANEwQUAD DOWNWARDS ARROW",
    "yOTE UNDERBARw+DELTAx+IAMONDw+JOTw+CIRCLEwUP SHOE JOTwQUOTE QUADwCIRCLE STARwQUAD COLONwUP TACK DIAERESISw,DEL",
    "w,STARw,JOTw,CIRCLEwDOWN SHOE STILEw.LEFTwTILDE DIAERESISw,GREATER-THANwCOMMA BARwDEL TILDEw%Zw%STILE T",
    "xEMICOLON UNDERBARwQUAD NOT EQUALzcQUESTIONwDOWN CARET TILDEw:UPwIOTAwRHOwOMEGAwALPHA UNDERBARw+EPSILONw+IOTA",
    "w,OMEGwALPHAaNOT CHECK MARKaRIGHT ANGLE WITH DOWNWARDS ZIGZAG ARROWaSHOULDERED OPEN BOXaBELL SYMBOL",
    "aVERTICAL LINE WITH MIDDLE DOTaINSERTION SYMBOLa)CONTINUOUS UNDERLINEa|&DISa)EMPHASISa)COMPOSITION",
    "aWHITE SQUARE WITH CENTRE VERTICAL LINEaENTER SYMBOLa)ALTERNATIVE KEYa)HELMaCIRCLED HORIZONTAL BAR WITH NOTCH",
    "iTRIANGLE DOWNaBROKEN CIRCLE WITH NORTHWEST ARROWaUNDO SYMBOLa)MONOSTABLEa)HYSTERESIS",
    "a)OPEN-CIRCUIT-OUTPUT H-TYPEu:La)PASSIVE-PULL-DOWN-OUTPUTn<UPaDIRECT CURRENT SYMBOL FORM TWO",
    "aSOFTWARE-FUNCTION SYMBOLaAPL FUNCTIONAL SYMBOL QUADaDECIMAL SEPARATOR KEY SYMBOLaPREVIOUS PAGEa&NEXT",
    "aPRINT SCREEN SYMBOLa<CLEARaLEFT PARENTHESIS UPPER HOOKrEXTENSIONrLOWER HOOKa)RIGHT PARENTHESIS UPPsEXTENSION",
    "sLOWER HOOKaLEFT SQUARE BRACKET UPPER CORNERuEXTENSIONuLOWER CORNERa+RIGHT SQUARE BRACKET UPPvEXTENSION",
    "vLOWER CORNERaLEFT CURLY BRACKET UPPER HOOKtMIDDLE PIECEtLOWER HOOKaCURLY BRACKET EXTENSION",
    "aRIGHT CURLY BRACKET UPPER HOOKuMIDDLE PIECEuLOWER HOOKaINTEGRAL EXTENSIONa,HORIZONTAL LINE",
    "a$UPPER LEFT OR LOWER RIGHT CURLY BRACKET SECTg|RIGHT OR LOWER LEFTaSUMMATION TOPkBOTTOMaTOP SQUARE BRACKET",
    "a=BOTTOMv OVER TOP SQUARE BRACKETaRADICAL SYMBOL BOTTOMaLEFT VERTICAL BOX LINEa[RIGHaHORIZONTAL SCAN LINE-1v3v7",
    "v9aDENTISTRY SYMBOL LIGHT VERTICAL AND TOP RIGHTzl(BOTTOMzhWITH CIRCLEx<DOWN AND HORIZONTx|&UP",
    "x#VERTICAL WITH TRIANGx>DOWN AND HORIZONTx|)UPxVERTICAL AND WAVEx&DOWN AND HORIZONTAL WITHx|$UP",
    "xDOWN AND HORIZONTALx=UPxVERTICAL AND TOP LEFTzl&BOTTOMaSQUARE FOOTaRETURN SYMBOLa)EJECTaVERTICAL LINE EXTENSION",
    "aMETRICAL BREVEjLONG OVER SHORTjSHORT OVER LONGjLONG OVER TWO SHORTSjTWO SHORTS OVER LONGuJOINEDkRISEMEk%ETRA",
    "j&PENTaEARTH GROUNDaFUSEaTOP PARENTHESISa:BOTTOMaTOP CURLY BRACKETa<BOTTOMa*TOP TORTOISE SHELLa|BOTTOM ",
    "aWHITE TRAPEZIUMaBENZENE RING WITH CIRCLEaSTRAIGHTNESSa&FLAaAC CURRENTaELECTRICAL INTERSECTION",
    "aDECIMAL EXPONENT SYMBOLaBLACK RIGHT-POINTING DOUBLE TRIANGLEg|%LEFg|$UPg|$DOWN",
    "gRIGHT-POINTING DOUBLE TRIANGLE WITH VERTICAL BARg||LEFg;RIGHT-POINTING TRIANGLE WITH DOUBLEaALARM CLOCK",
    "aSTOPWATCHaTIMER CLOCKaHOURGLASS WITH FLOWING SANDaBLACK MEDIUM LEFT-POINTING TRIANGLEn[RIGHn@UPn@DOWN",
    "aDOUBLE VERTICAL BARaBLACK SQUARE FOR STOPgCIRCLE FOR RECORDaPOWER SYMBOLf) ON-OFFi)g)SLEEPa)OBSERVER EYE",
    "aSYMBOL FOR NULLlSTART OF HEADINGuTEXTl*ENDtRANSMISSIONnQUIRYlACKNOWLEDGElBELLmACKSPACElHORIZONTAL TABULATION",
    "lLINE FEEDlVERTICAL TABULATIONlFORM FEEDlCARRIAGE RETURNlSHIFT OUTrINlDATA LINK ESCAPEmEVICE CONTROL ONEz TWO",
    "zcHREEz FOURlNEGATIVE ACKNOWLEDGElSYNCHRONOUS IDLElEND OF TRANSMISSION BLOCKlCANCELlEND OF MEDIUMlSUBSTITUTE",
    "lESCAPElFILE SEPARATORl,GROUPl,RECORDl,UNITlSPACElDELETEaBLANK SYMBOLaOPEN BOXaSYMBOL FOR NEWLINE",
    "lDELETE FORM TWOl.SUBSTITU"]),
  (0x2440, ["aOCR HOOKeCHAIReFORKd& INVERTEDeBELT BUCKLEfOW TIEfRANCH BANK IDENTIFICATIONeAMOUNT OF CHECKeDASH",
    "eCUSTOMER ACCOUNT NUMBEReDOUBLE BACKSLASH"]),
  (0x2460, ["aCIRCLED DIGIT ONEoTWOpHREEoFOURpIVEoSIXpEVENoEIGHToNINEiNUMBER TENp#ELEVpTWELVEqHIRTEENp&FOUq%IFp%SIX",
    "q%EVENp%EIGHp%NINEpTWENTYaPARENTHESIZED DIGIT ONEuTWOvHREEuFOURvIVEuSIXvEVENuEIGHTuNINEoNUMBER TENv#ELEVvTWELVE",
    "wHIRTEENv&FOUw%IFv%SIXw%EVENv%EIGHv%NINEvTWENTYaDIGIT ONE FULL STOPg,TWOh,HREEg,FOURh,IVEg,SIXh,EVENg,EIGHT",
    "g,NINEa,NUMBER TENh:ELEVh,TWELVEi,HIRTEENh=FOUi<IFh<SIXi<EVENh<EIGHh<NINEh,TWENTY",
    "aPARENTHESIZED LATIN SMALL LETTER A~~~~~~~~~~~~~~~~~~~~~~~~~aCIRCLED LATIN CAPITAL LETTER A~~~~~~~~~~~~~~~~~~~~~",
    "~~~~oSMALL LETTER A~~~~~~~~~~~~~~~~~~~~~~~~~iDIGIT ZEROaNEGATIVE CIRCLED NUMBER ELEVENyTWELVEzHIRTEENy&FOUz%IF",
    "y%SIXz%EVENy%EIGHy%NINEyTWENTYaDOUBLE CIRCLED DIGIT ONEvTWOwHREEvFOURwIVEvSIXwEVENvEIGHTvNINEpNUMBER TEN",
    "aNEGATIVE CIRCLED DIGIT ZEROaBOX DRAWINGS LIGHT HORIZONTALn.HEAVYn#LIGHT VERTICn+HEAVY",
    "n#LIGHT TRIPLE DASH HORIZONTn|HEAVY n#LIGHT TRIPLE DASH VERTICn^HEAVYn#LIGHT QUADRUPLE DASH HORIZONTn|%HEAVY",
    "n#LIGHT QUADRUPLE DASH VERTICn|#HEAVYnLIGHT DOWN AND RIGHTnDOWN LIGHT AND RIGHT HEAVYsHEAVY AND RIGHT LIGHT",
    "n%HEAVY DOWN AND RnLIGHT DOWN AND LEFTnDOWN LIGHT AND LEFT HEAVYsHEAVY AND LEFT LIGHTnHEAVY DOWN AND LEFT",
    "nLIGHT UP AND RIGHTnUP LIGHT AND RIGHT HEAVYqHEAVY AND RIGHT LIGHTn%HEAVY UP AND RnLIGHT UP AND LEFT",
    "nUP LIGHT AND LEFT HEAVYqHEAVY AND LEFT LIGHTnHEAVY UP AND LEFTnLIGHT VERTICAL AND RIGHT",
    "nVERTICAL LIGHT AND RIGHT HEAVYnUP HEAVY AND RIGHT DOWN LIGHTn(DOWN HEAVY AND RIGHT UPn(VERTICAL HEAVY AND RIGHT",
    "nDOWN LIGHT AND RIGHT UP HEAVYn(UP LIGHT AND RIGHT DOWNnHEAVY VERTICAL AND RIGHTnLIGHT VERTICAL AND LEFT",
    "nVERTICAL LIGHT AND LEFT HEAVYnUP HEAVY AND LEFT DOWN LIGHTn(DOWN HEAVY AND LEFT UPn(VERTICAL HEAVY AND LEFT",
    "nDOWN LIGHT AND LEFT UP HEAVYn(UP LIGHT AND LEFT DOWNnHEAVY VERTICAL AND LEFTnLIGHT DOWN AND HORIZONTAL",
    "oEFT HEAVY AND RIGHT DOWN LIGHTn:RIGHT HEAVY AND LEFnDOWN LIGHT AND HORIZONTAL HEAVYsHEAVY AND HORIZONTAL LIGHT",
    "nRIGHT LIGHT AND LEFT DOWN HEAVYn:LEFT LIGHT AND RIGHnHEAVY DOWN AND HORIZONTALn=LIGHT UP",
    "oEFT HEAVY AND RIGHT UP LIGHTn,RIGHT HEAVY AND LEFnUP LIGHT AND HORIZONTAL HEAVYqHEAVY AND HORIZONTAL LIGHT",
    "nRIGHT LIGHT AND LEFT UP HEAVYn,LEFT LIGHT AND RIGHnHEAVY UP AND HORIZONTALn=LIGHT VERTICAL",
    "oEFT HEAVY AND RIGHT VERTICAL LIGHTn>RIGHT HEAVY AND LEFnVERTICAL LIGHT AND HORIZONTAL HEAVY",
    "nUP HEAVY AND DOWN HORIZONTAL LIGHTn?DOWN HEAVY AND UPn?VERTICAL HEAVY ANDn(LEFT UP HEAVY AND RIGHT DOWN",
    "n:RIGHT UP HEAVY AND LEFn(LEFT DOWN HEAVY AND RIGHT UPn,RIGHT DOWN HEAVY AND LEF",
    "nDOWN LIGHT AND UP HORIZONTAL HEAVYn?UP LIGHT AND DOWNn*RIGHT LIGHT AND LEFT VERTICn>LEFT LIGHT AND RIGH",
    "nHEAVY VERTICAL AND HORIZONTALn.LIGHT DOUBLE DASHn|HEAVY n#LIGHT DOUBLE DASH VERTICn^HEAVYn#DOUBLE HORIZONT",
    "u#VERTICpWN SINGLE AND RIGHT DOUBLEs#DOUBLE AND RIGHT SINGpUBLE DOWN AND RIGHTpWN SINGLE AND LEFT DOUBLE",
    "s#DOUBLE AND LEFT SINGpUBLE DOWN AND LEFTnUP SINGLE AND RIGHT DOUBLEq#DOUBLE AND RIGHT SINGnDOUBLE UP AND RIGHT",
    "nUP SINGLE AND LEFT DOUBLEq#DOUBLE AND LEFT SINGnDOUBLE UP AND LEFTnVERTICAL SINGLE AND RIGHT DOUBLE",
    "w#DOUBLE AND RIGHT SINGnDOUBLE VERTICAL AND RIGHTnVERTICAL SINGLE AND LEFT DOUBLEw#DOUBLE AND LEFT SING",
    "nDOUBLE VERTICAL AND LEFTpWN SINGLE AND HORIZONTAL DOUBLEs#DOUBLE AND HORIZONTAL SINGpUBLE DOWN AND HORIZONTAL",
    "nUP SINGLE AND HORIZONTAL DOUBLEq#DOUBLE AND HORIZONTAL SINGnDOUBLE UP AND HORIZONTAL",
    "nVERTICAL SINGLE AND HORIZONTAL DOUBLEw#DOUBLE AND HORIZONTAL SINGnDOUBLE VERTICAL AND HORIZONTAL",
    "nLIGHT ARC DOWN AND RIGHTzhLEFTx+UPzfRIGHTtDIAGONAL UPPER RIGHT TO LOWER LEFTzjLEFT TO LOWER RIGHTzdCROSStLEFT",
    "tUPtRIGHTtDOWNnHEAVY LEFTtUPtRIGHTtDOWNnLIGHT LEFT AND HEAVY RIGHTtUP AND HEAVY DOWNnHEAVY LEFT AND LIGHT RIGHT",
    "tUP AND LIGHT DOWNaUPPER HALF BLOCKa(LOWER ONE EIGHTHk(QUARTERg(THREE EIGHTHSg(HALFg(FIVE EIGHTHSg)THREE QUARTER",
    "g)SEVEN EIGHTHa(FULLa(LEFT SEVEN EIGHTHSf)THREE QUARTERf)FIVE EIGHTHf(HALFf(THREE EIGHTHSf(ONE QUARTERj(EIGHTH",
    "a(RIGHT HALFaLIGHT SHADEa(MEDIUMa(DARKaUPPER ONE EIGHTH BLOCKa?RIGHTaQUADRANT LOWER LEFTpRIGHTjUPPER LEFT",
    "t AND LOWER LEFT AND LOWER RIGHTn|yUPPER RIGHT AND LOWER LEFTzvRIGHTm*u AND LOWER LEFTzk AND LOWER RIGHT",
    "aBLACK SQUAREa)WHITEm WITH ROUNDED CORNERSnCONTAINING BLACK SMALL SQUAREaSQUARE WITH HORIZONTAL FILLm)VERTIC",
    "m&ORTHOGONAL CROSSHATCHm&UPPER LEFT TO LOWER RIGHTs(RIGHT TO LOWER LEFm&DIAGONAL CROSSHATCHaBLACK SMALL SQUARE",
    "a;WHITEaBLACK RECTANGLEa,WHITEa,BLACK VERTICALa[WHITEaBLACK PARALLELOGRAMa<WHITEaBLACK UP-POINTING TRIANGLE",
    "a^WHITEa+BLACK UP-POINTING SMALLa|&WHITEa+BLACK RIGHT-POINTINGa|#WHITEa+BLACK RIGHT-POINTING SMALLa|*WHITE",
    "aBLACK RIGHT-POINTING POINTERa|WHITE aBLACK DOWN-POINTING TRIANGLEa|WHITE a+BLACK DOWN-POINTING SMALLa|)WHITE",
    "a+BLACK LEFT-POINTINGa|WHITE a+BLACK LEFT-POINTING SMALLa|)WHITEaBLACK LEFT-POINTING POINTERa|WHITE",
    "aBLACK DIAMONDa*WHITEn CONTAINING BLACK SMALL DIAMONDaFISHEYEaLOZENGEaWHITE CIRCLEa)DOTTED",
    "aCIRCLE WITH VERTICAL FILLaBULLSEYEbLACK CIRCLEaCIRCLE WITH LEFT HALF BLACKm:RIGHm.LOWERm;UPPs(RIGHT QUADRANT",
    "m>ALL BUT UPPER LEFaLEFT HALF BLACK CIRCLEa[RIGHaINVERSE BULLETiWHITE CIRCLEa]UPPER HALF a|(LOW",
    "aUPPER LEFT QUADRANT CIRCULAR ARCg|RIGHTa|*LOWg|LEFTaUPPER HALF CIRCLEa<LOWa#BLACK LOWER RIGHT TRIANGm,LEFg>UPP",
    "m,RIGHaWHITE BULLETaSQUARE WITH LEFT HALF BLACKm:RIGHm.UPPER LEFT DIAGONALm^LOWER RIGH",
    "aWHITE SQUARE WITH VERTICAL BISECTING LINEgUP-POINTING TRIANGLE WITH DOT",
    "aUP-POINTING TRIANGLE WITH LEFT HALF BLACKz: RIGHaLARGE CIRCLEaWHITE SQUARE WITH UPPER LEFT QUADRANTs>LOWy,RIGH",
    "s?UPPg,CIRCLE WITH UPPER LEFs>LOWy,RIGHs?UPPaUPPER LEFT TRIANGLEg,RIGHa,LOWER LEFaWHITE MEDIUM SQUAREa<BLACK",
    "a)WHITE MEDIUM SMALLa]BLACKaLOWER RIGHT TRIANGLEaBLACK SUN WITH RAYSaCLOUDaUMBRELLAaSNOWMANaCOMETaBLACK STAR",
    "a&WHITEaLIGHTNINGaTHUNDERSTORMaSUNaASCENDING NODEa;DEaCONJUNCTIONa%OPPOSIaBLACK TELEPHONEa,WHITEaBALLOT BOX",
    "k WITH CHECKqXaSALTIREaUMBRELLA WITH RAIN DROPSaHOT BEVERAGEaWHITE SHOGI PIECEa:BLACKaSHAMROCK",
    "aREVERSED ROTATED FLORAL HEART BULLETaBLACK LEFT POINTING INDEXg>RIGHa>WHITE LEFg=UPg=RIGHTg=DOWN",
    "aSKULL AND CROSSBONESaCAUTION SIGNa&RADIOACTIVEa&BIOHAZARDaCADUCEUSaANKHaORTHODOX CROSSaCHI RHObROSS OF LORRAINE",
    "jJERUSALEMaSTAR AND CRESCENTaFARSI SYMBOLaADI SHAKTIaHAMMER AND SICKLEaPEACE SYMBOLaYIN YANGaTRIGRAM FOR HEAVEN",
    "mLAKEmFIREmTHUNDERmWINDnATERmMOUNTAINmEARTHaWHEEL OF DHARMAcITE FROWNING FACEg*SMILa;BLACKaWHITE SUN WITH RAYS",
    "aFIRST QUARTER MOONa=LAaMERCURYaFEMALE SIGNaEARTHaMALE SIGNaJUPITERaSATURNaURANUSaNEPTUNEaPLUTOaARIESaTAURUS",
    "aGEMINIaCANCERaLEOaVIRGOaLIBRAaSCORPIUSb$AGITTARaCAPRICORNaAQUARIUSaPISCESaWHITE CHESS KINGmQUEENmROOKmBISHOP",
    "mKNIGHTmPAWNaBLACK CHESS KINGmQUEENmROOKmBISHOPmKNIGHTmPAWNgSPADE SUITa&WHITE HEARTg&DIAMONDa&BLACK CLUB",
    "a&WHITE SPADEa&BLACK HEARTg&DIAMONDa&WHITE CLUBaHOT SPRINGSaQUARTER NOTEa&EIGHTHaBEAMED EIGHTH NOTESh*SIXTEEN",
    "aMUSIC FLAT SIGNg&NATURALg&SHARPaWEST SYRIAC CROSSa=EAaUNIVERSAL RECYCLING SYMBOL",
    "aRECYCLING SYMBOL FOR TYPE-1 PLASTICSz+-2z+-3z+-4z+-5z+-6z+-7vGENERIC MATERIALSaBLACK UNIVERSAL RECYCLING SYMBOL",
    "a)RECYCLED PAPERa^PARTIALLY-bERMANENT PAPER SIGNaWHEELCHAIR SYMBOLaDIE FACE-1~~~~~aWHITE CIRCLE WITH DOT RIGHT",
    "sTWO DOTSaBLACK CIRCLE WITH WHITE DOT RIGHTsTWO WHITE DOTSaMONOGRAM FOR YANGoINaDIGRAM FOR GREATER YANG",
    "lLESSER YINtANGlGREATER YINaWHITE FLAGa&BLACKaHAMMER AND PICKaANCHORaCROSSED SWORDSaSTAFF OF AESCULAPIUSbCALES",
    "aALEMBICaFLOWERaGEARaSTAFF OF HERMESaATOM SYMBOLaFLEUR-DE-LISaOUTLINED WHITE STARaTHREE LINES CONVERGING RIGHT",
    "xLEFTaWARNING SIGNa&HIGH VOLTAGEa(DOUBLED FEMALi+a.INTERLOCKED FEMALE ANa+MALE AND FEf(WITH STROK",
    "p(E AND MALE AND FEMALa(VERTICAL MALE WITH STROKa|#HORIZONTaMEDIUM WHITE CIRCLEh)BLACKh)SMALL WHITE",
    "bARRIAGE SYMBOLa*DIVORCa)UNMARRIED PARTNERSHIPaCOFFINaFUNERAL URNaNEUTERaCERESaPALLASaJUNOaVESTAaCHIRON",
    "aBLACK MOON LILITHaSEXTILEa)SEMIaQUINCUNXaSESQUIQUADRATEbOCCER BALLa%BASEaSQUARED KEYaWHITE DRAUGHTS MANpKING",
    "aBLACK DRAUGHTS MANpKINGaSNOWMAN WITHOUT SNOWbUN BEHIND CLOUDaRAINaBLACK SNOWMANaTHUNDER CLOUD AND RAIN",
    "bURNED WHITE SHOGI PIECEh:BLACKaWHITE DIAMOND IN SQUAREaCROSSING LANESaDISABLED CARaOPHIUCHUSaPICKaCAR SLIDING",
    "aHELMET WITH WHITE CROSSaCIRCLED CROSSING LANESbHAINSaNO ENTRYaALTERNATE ONE-WAY LEFT WAY TRAFFICa^BLACK TWO",
    "a|$WHITEaBLACK LEFT LANE MERGEa>WHITEaDRIVE SLOW SIGNaHEAVY WHITE DOWN-POINTING TRIANGLEaLEFT CLOSED ENTRY",
    "aSQUARED SALTIREa#FALLING DIAGONAL IN WHITE CIRCLE IN BLACK SQUAaBLACK TRUCKaRESTRICTED LEFT ENTRY-1~",
    "aASTRONOMICAL SYMBOL FOR URANUSaHEAVY CIRCLE WITH STROKE AND TWO DOTS ABOVEaPENTAGRAMa+RIGHT-HANDED INTERLACED ",
    "a|)LEFa:INVERTaBLACK CROSS ON SHIELDaSHINTO SHRINEaCHURCHbASTLEaHISTORIC SITEaGEAR WITHOUT HUBj HANDLES",
    "aMAP SYMBOL FOR LIGHTHOUSEbOUNTAINaUMBRELLA ON GROUNDaFOUNTAINbLAG IN HOLEbERRYaSAILBOATbQUARE FOUR CORNERSbKIER",
    "aICE SKATEaPERSON WITH BALLaTENTaJAPANESE BANK SYMBOLa)HEADSTONE GRAVEYARDaFUEL PUMPaCUP ON BLACK SQUARE",
    "aWHITE FLAG WITH HORIZONTAL MIDDLE BLACK STRIPEaBLACK SAFETY SCISSORSa+UPPER BLADEa+BLACKa+LOWER BLADEa,WHIT",
    "gHEAVY CHECK MARKaTELEPHONE LOCATION SIGNbAPE DRIVEaAIRPLANEaENVELOPEaRAISED FISThHANDa&VICTORYa&WRITING",
    "aLOWER RIGHT PENCILa(a(UPPER RIGHT aWHITE NIBa%BLACKaCHECK MARKa,HEAVY aMULTIPLICATION Xa>HEAVY a#BALLOTa*HEAVY ",
    "aOUTLINED GREEK CROSSa:HEAVYa(OPEN CENTREa?HEAVY a(LATINa.SHADOWED WHITE a:OUTLINEDa(MALTESEaSTAR OF DAVID",
    "aFOUR TEARDROP-SPOKED ASTERISKf>BALLOONa|(HEAVY a>FOUR CLUBaBLACK FOUR POINTED STARa@WHITEaSPARKLES",
    "bTRESS OUTLINED WHITE STARa;CIRCLa&OPEN CENTRE BLACKa&BLACK CENTRE WHITEa&OUTLINED BLACKa[HEAVY a&PINWHEEL",
    "a&SHADOWED WHITEaHEAVY ASTERISKa+OPEN CENTREa+EIGHT SPOKEDgPOINTED BLACK STARo&PINWHEELa&SIX POINTED BLACK",
    "a.EIGHT POINTED RECTILINEARa|<HEAVY a.TWELVE POINTEDaSIXTEEN POINTED ASTERISKa.TEARDROP-SPOKa|#OPEN CENTRE ",
    "a|$HEAVYaSIX PETALLED BLACK AND WHITE FLORETTEa+BLACKa+WHITEa+EIGHT PETALLED OUTLINED BLACK",
    "aCIRCLED OPEN CENTRE EIGHT POINTED STARaHEAVY TEARDROP-SPOKED PINWHEEL ASTERISKaSNOWFLAKEa+TIGHT TRIFOLIATE ",
    "a,HEAVY CHEVRONaSPARKLEa)HEAVY aBALLOON-SPOKED ASTERISKa+EIGHT TEARDROP-SPOKED PROPELLERa|@HEAVY aCROSS MARK",
    "aSHADOWED WHITE CIRCLEaNEGATIVE SQUARED CROSS MARKaLOWER RIGHT DROP-SHADOWED WHITE SQUAREa|;UPPa^LOWER RIGHT ",
    "a|*UPPaBLACK QUESTION MARK ORNAMENTa|WHITE g@EXCLAMAaBLACK DIAMOND MINUS WHITE XaHEAVY EXCLAMATION MARK SYMBOL",
    "aLIGHT VERTICAL BARa;MEDIUMa;HEAVYgSINGLE TURNED COMMA QUOTATION MARK ORNAMENTm|*g|*DOUBLE TURNEDm|*g|,LOW SING",
    "k|,DOUBa+CURVED STEM PARAGRAPH SIGNa+HEAVY EXCLAMATION MARKf|% HEARTgBLACK HEART",
    "aROTATED HEAVY BLACK HEART BULLETaFLORAL HEARTaROTATED FLORAL HEART BULLETaMEDIUM LEFT PARENTHESIS ORNAMENT",
    "h|RIGHh|FLATTENED LEFr|RIGHh+LEFT-POINTING ANGLE BRACKETh|.RIGHa+HEAVY LEFT-POINTING ANGLE QUOTATION MARKg|@RIGH",
    "g+LEFT-POINTING ANGLE BRACKETg|.RIGHa?LIGHT LEFT TORTOISE SHELLg|.RIGHa?MEDIUM LEFT CURLYh|#RIGH",
    "aDINGBAT NEGATIVE CIRCLED DIGIT ONEzgTWOzhHREEzgFOURzhIVEzgSIXzhEVENzgEIGHTzgNINEzNUMBER TEN",
    "iCIRCLED SANS-SERIF DIGIT ONEziTWOzjHREEziFOURzjIVEziSIXzjEVENziEIGHTziNINEzcNUMBER TEN",
    "iNEGATIVE CIRCLED SANS-SERIF DIGIT ONEzrTWOzsHREEzrFOURzsIVEzrSIXzsEVENzrEIGHTzrNINEzlNUMBER TEN",
    "aHEAVY WIDE-HEADED RIGHTWARDS ARROWgPLUS SIGNg)MINg&DIVISIONgSOUTH EAST ARROWg(RIGHTWARDSg(NORTH EAST",
    "a(DRAFTING POINT RIGHTWARDSa?HEAVY ROUND-TIPPEDa[TRIANGLE-HEADa|,HEAVY a|.DASHEDa|?HEAVY a?BLACK",
    "aTHREE-D TOP-LIGHTED RIGHTWARDS ARROWHEADi|)BOTTOMa^BLACKaHEAVY BLACK CURVED DOWNWARDS AND RIGHTWARDS ARROWt|%UP",
    "a?SQUAT BLACKa|HEAVY CONCAVE-POINTED a?RIGHT-SHADED WHITEa|+LEFa|$BACK-TILTED SHADOWa|?FRONT",
    "a|+HEAVY LOWER RIGHT-g|@UPPa|@NOTCHED LOWaCURLY LOOPaNOTCHED UPPER RIGHT-SHADOWED WHITE RIGHTWARDS ARROW",
    "a|CIRCLED HEAVY a?WHITE-FEATHEREDa(BLACK-FEATHERED SOUTH EASTq(RIGHTWARDSq(NORTH EASTa;HEAVY BLACK-FEATHERED SOU",
    "w(RIGHTWARDSw(NORTH EASTa(TEARDROP-BARBED RIGHTWARDSa[HEAVY TEARDROP-SHANKa[WEDGE-TAILa|)HEAVY a[OPEN-OUTLIN",
    "aDOUBLE CURLY LOOPaTHREE DIMENSIONAL ANGLEa&WHITE TRIANGLE CONTAINING SMALL WHITE TRIaPERPENDICULARaOPEN SUBSET",
    "h$PERaLEFT S-SHAPED BAG DELIMITERa|#RIGHaOR WITH DOT INSIDEaREVERSE SOLIDUS PRECEDING SUBSET",
    "aSUPERSET PRECEDING SOLIDUSaVERTICAL BAR WITH HORIZONTAL STROKEaMATHEMATICAL RISING DIAGONALaLONG DIVISION",
    "aMATHEMATICAL FALLING DIAGONALaSQUARED LOGICAL ANDqORaWHITE DIAMOND WITH CENTRED DOTa%AND WITH",
    "aELEMENT OF OPENING UPWARDSaLOWER RIGHT CORNER WITH DOTa?UPPER LEFaLEFT OUTER JOINa:RIGHa.FULLaLARGE UP TACK",
    "g&DOWNbEFT AND RIGHT DOUBLE TURNSTILEpTACKfMULTIMAPbONG RIGHT TACKf(LEFaUP TACK WITH CIRCLE ABOVE",
    "aLOZENGE DIVIDED BY HORIZONTAL RULEaWHITE CONCAVE-SIDED DIAMONDzc WITH LEFTWARDS TICKzi.RIGHg.SQUARE WITH LEF",
    "s.RIGHaMATHEMATICAL LEFT WHITE SQUARE BRACKETn|RIGHn+LEFT ANGLn=RIGHn<LEFT DOUBLEn|RIGH",
    "n*LEFT WHITE TORTOISE SHELLn|*RIGHnLEFT FLATTENED PARENTHESISn|RIGHTaUPWARDS QUADRUPLE ARROWa^DOWN",
    "a*ANTICLOCKWISE GAPPED CIRCa|)aRIGHT ARROW WITH CIRCLED PLUSaLONG LEFTWARDS ARROWf:RIGHf(LEFT RIGHT",
    "j(WARDS DOUBLEf[RIGHf;LEFT RIGHTjWARDS ARROW FROM BARf^RIGHf=LEFTWARDS DOUBLEf|(RIGHqSQUIGGLE ARROW",
    "aBRAILLE PATTERN BLANKqDOTS-1~v12v3v13v23v#1v4v14v24v#1v34v#1v#2v$1v5v15v25v#1v35v#1v#2v$1v45v#1v#2v$1v#3v$1v$2",
    "v%1v6v16v26v#1v36v#1v#2v$1v46v#1v#2v$1v#3v$1v$2v%1v56v#1v#2v$1v#3v$1v$2v%1v#4v$1v$2v%1v$3v%1v%2v&1v7v17v27v#1v37",
    "v#1v#2v$1v47v#1v#2v$1v#3v$1v$2v%1v57v#1v#2v$1v#3v$1v$2v%1v#4v$1v$2v%1v$3v%1v%2v&1v67v#1v#2v$1v#3v$1v$2v%1v#4v$1",
    "v$2v%1v$3v%1v%2v&1v#5v$1v$2v%1v$3v%1v%2v&1v$4v%1v%2v&1v%3v&1v&2v(1v8v18v28v#1v38v#1v#2v$1v48v#1v#2v$1v#3v$1v$2",
    "v%1v58v#1v#2v$1v#3v$1v$2v%1v#4v$1v$2v%1v$3v%1v%2v&1v68v#1v#2v$1v#3v$1v$2v%1v#4v$1v$2v%1v$3v%1v%2v&1v#5v$1v$2v%1",
    "v$3v%1v%2v&1v$4v%1v%2v&1v%3v&1v&2v(1v78v#1v#2v$1v#3v$1v$2v%1v#4v$1v$2v%1v$3v%1v%2v&1v#5v$1v$2v%1v$3v%1v%2v&1v$4",
    "v%1v%2v&1v%3v&1v&2v(1v#6v$1v$2v%1v$3v%1v%2v&1v$4v%1v%2v&1v%3v&1v&2v(1v$5v%1v%2v&1v%3v&1v&2v(1v%4v&1v&2v(1v&3v(1",
    "v(2v)1aRIGHTWARDS TWO-HEADED ARROW WITH VERTICAL STROKEzh> DOUBLEa>LEFTWARDS DOUBLE ARROW WITHa|@RIGH",
    "a|:LEFT RIGHTaRIGHTWARDS TWO-HEADED ARROW FROM BARa=LEFTWARDS DOUBLEa|(RIGH",
    "aDOWNWARDS ARROW WITH HORIZONTAL STROKEa|:UPiTRIPLE ARROWa@DOWNa(LEFTWARDS DOUBLE DASHa|#RIGHa;LEFTWARDS TRIP",
    "a|#RIGHk@ TWO-HEADEDlARROW WITH DOTTED STEMaUPWARDS ARROW TO BARa@DOWN",
    "aRIGHTWARDS ARROW WITH TAIL WITH VERTICAL STROKEzg> DOUBLElTWO-HEADED ARROW WITH TAILzm WITH VERTICAL STROKE",
    "zr> DOUBLEaLEFTWARDS ARROW-TAILa?RIGHa.LEFTWARDS DOUBLEa|#RIGHaLEFTWARDS ARROW TO BLACK DIAMONDa|)RIGH",
    "a?LEFTWARDS ARROW FROM BARa|>RIGHaNORTH WEST AND SOUTH EAST ARROWg*EAST AND SOUTH WEgWEST ARROW WITH HOOKg@EA",
    "a|SOUTg@WEaNORTH WEST ARROW AND NORTH EAST ARROWg;EAST ARROW AND SOUa*SOUTH EAST ARROW AND SOUTH WE",
    "g;WEST ARROW AND NORaRISING DIAGONAL CROSSING FALLING DIAGONALa:FALLING DIAGONAL CROSSING RIS",
    "aSOUTH EAST ARROW CROSSING NORTH EAST ARROWa;NORTH EAST ARROW CROSSING SOUa;FALLING DIAGONAL CROSSING NOR",
    "a;RISING DIAGONAL CROSSING SOUa*NORTH EAST ARROW CROSSING NORTH WEg*WEST ARROW CROSSING NORTH EA",
    "aWAVE ARROW POINTING DIRECTLY RIGHTaARROW POINTING RIGHTWARDS THEN CURVING UPWARDSzo&DOWN",
    "p&DOWNWARDS THEN CURVING LEFTzn(RIGHaRIGHT-SIDE ARC CLOCKWISE ARROWa=LEFT-SIDE ARC ANTIa|#TOPa|#BOTTOM",
    "aTOP ARC CLOCKWISE ARROW WITH MINUSi#ANTICLOCKWISE ARROW WITH PLaLOWER RIGHT SEMICIRCULAR CLOCKWISE ARROW",
    "g=LEFT SEMICIRCULAR ANTIa)ANTICLOCKWISE CLOSED CIRCLa|)a(RIGHTWARDS ARROW ABOVE SHORT LEFTWARDS",
    "a:LEFTWARDS ARROW ABOVE SHORT RIGHa:SHORT RIGHTWARDS ARROW ABOVE LEFa#RIGHTWARDS ARROW WITH PLUS BELa|(LEF",
    "aRIGHTWARDS ARROW THROUGH XaLEFT RIGHT ARROW THROUGH SMALL CIRCLEa;UPWARDS TWO-HEADED ARROW FROM",
    "aLEFT BARB UP RIGHT BARB DOWN HARPOONk*DOWN RIGHT BARB UPa*UP BARB RIGHT DOWN BARB LEFTi+LEFT DOWN BARB RIGH",
    "a*LEFT BARB UP RIGHT BARB UPa*UP BARB RIGHT DOWN BARB RIGHTa*LEFT BARB DOWN RIGHT BARB DOWN",
    "a*UP BARB LEFT DOWN BARB LEFTaLEFTWARDS HARPOON WITH BARB UP TO BARa|:RIGHa)UPWARDS HARPOON WITH BARB RIGHT",
    "a|<DOWNa)LEFTWARDS HARPOON WITH BARB DOWNa|<RIGHa)UPWARDS HARPOON WITH BARB LEFTa|;DOWN",
    "a%LEFTWARDS HARPOON WITH BARB UP FROMa|<RIGHa+UPWARDS HARPOON WITH BARB RIGHTa|>DOWN",
    "a+LEFTWARDS HARPOON WITH BARB DOWNa|>RIGHa+UPWARDS HARPOON WITH BARB LEFTa|=DOWN",
    "aLEFTWARDS HARPOON WITH BARB UP ABOVE LEFTWARDS HARPOON WITH BARB DOWN",
    "aUPWARDS HARPOON WITH BARB LEFT BESIDE UPWARDS HARPOON WITH BARB RIGHT",
    "aRIGHTWARDS HARPOON WITH BARB UP ABOVE RIGHTWARDS HARPOON WITH BARB DOWN",
    "aDOWNWARDS HARPOON WITH BARB LEFT BESIDE DOWNWARDS HARPOON WITH BARB RIGHT",
    "aLEFTWARDS HARPOON WITH BARB UP ABOVE RIGHTWARDS HARPOON WITH BARB UP",
    "zdDOWN ABOVE RIGHTWARDS HARPOON WITH BARB DOWN",
    "aRIGHTWARDS HARPOON WITH BARB UP ABOVE LEFTWARDS HARPOON WITH BARB UP",
    "zeDOWN ABOVE LEFTWARDS HARPOON WITH BARB DOWNaLEFTWARDS HARPOON WITH BARB UP ABOVE LONG DASHzd,DOWN BELOW",
    "a,RIGHTWARDS HARPOON WITH BARB UP ABOVEze,DOWN BELOW",
    "aUPWARDS HARPOON WITH BARB LEFT BESIDE DOWNWARDS HARPOON WITH BARB RIGHT",
    "a|)DOWNWARDS HARPOON WITH BARB LEFT BESIDE UPaRIGHT DOUBLE ARROW WITH ROUNDED HEAD",
    "aEQUALS SIGN ABOVE RIGHTWARDS ARROWa|TILDE OPERATOR aLEFTWARDS ARROW ABOVE TILDE OPERATORa|.RIGHxALMOST EQUAL TO",
    "aLESS-THAN ABOVE LEFTWARDS ARROWcFTWARDS ARROW THROUGH LESS-THANaGREATER-THAN ABOVE RIGHTWARDS ARROWa|SUBSET ",
    "aLEFTWARDS ARROW THROUGH SUBSETaSUPERSET ABOVE LEFTWARDS ARROWaLEFT FISH TAILa.RIGHa,UPa,DOWN",
    "aTRIPLE VERTICAL BAR DELIMITERaZ NOTATION SPOTlTYPE COLONaLEFT WHITE CURLY BRACKETa^RIGHaLEFT WHITE PARENTHESIS",
    "a[RIGHaZ NOTATION LEFT IMAGE BRACKETl=RIGHl*LEFT BINDINGl?RIGHaLEFT SQUARE BRACKET WITH UNDERBARa|*RIGH",
    "aLEFT SQUARE BRACKET WITH TICK IN TOP CORNERa)RIGHT SQUARE BRACKET WITH TICK IN BOTTOMa|^LEF",
    "a)RIGHT SQUARE BRACKET WITH TICK IN TOPaLEFT ANGLE BRACKET WITH DOTa|#RIGHaLEFT ARC LESS-THAN BRACKET",
    "a;RIGHT ARC GREATERa|%DOUBLE LEFh;RIGHT ARC LESSa*LEFT BLACK TORTOISE SHELLa|*RIGHaDOTTED FENCE",
    "aVERTICAL ZIGZAG LINEaMEASURED ANGLE OPENING LEFTaRIGHT ANGLE VARIANT WITH SQUAREaMEASURED RIGHT ANGLE WITH DOT",
    "aANGLE WITH S INSIDEbCUTE ANGLEaSPHERICAL ANGLE OPENING LEFTyUPaTURNED ANGLEa*REVERSaANGLE WITH UNDERBAR",
    "a[REVERSED aOBLIQUE ANGLE OPENING UPwDOWNaMEASURED ANGLE WITH OPEN ARM ENDING IN ARROW POINTING UP AND RIGHT",
    "zzlLEFTzzeDOWN AND RIGHTzznLEFTzzeRIGHT AND UPzze*LEFzzeRIGHT AND DOWNzze,LEFaREVERSED EMPTY SET",
    "aEMPTY SET WITH OVERBARpSMALL CIRCLE ABOVEp(RIGHT ARROWp;LEFaCIRCLE WITH HORIZONTAL BARg(D VERTICiPARALLEL",
    "iREVERSE SOLIDUSiPERPENDICULARg# DIVIDED BY HORIZONTAL BAR AND TOP HALF DIVIDED BY VERTICAL B",
    "hWITH SUPERIMPOSED XgD ANTICLOCKWISE-ROTATED DIVISION SIGNaUP ARROW THROUGH CIRCLEaCIRCLED WHITE BULLETh)",
    "iLESS-THANi&GREATERg WITH SMALL CIRCLE TO THE RIGHTm;TWO HORIZONTAL STROKESaSQUARED RISING DIAGONAL SLASHi@FALL",
    "iASTERISKiSMALL CIRCLEjQUAREaTWO JOINED SQUARESbRIANGLE WITH DOT ABOVEoUNDERBARaS IN TRIANGLE",
    "aTRIANGLE WITH SERIFS AT BOTTOMaRIGHT TRIANGLE ABOVE LEFT TRIANGLEaLEFT TRIANGLE BESIDE VERTICAL BAR",
    "aVERTICAL BAR BESIDE RIGHT TRIANGLEaBOWTIE WITH LEFT HALF BLACKm:RIGHbLACK BOWTIEaTIMES WITH LEFT HALF BLACK",
    "l:RIGHaWHITE HOURGLASSa,BLACKaLEFT WIGGLY FENCEa<RIGHa;LEFT DOUBLEa^RIGHaINCOMPLETE INFINITYa+TIE OVER",
    "aINFINITY NEGATED WITH VERTICAL BARaDOUBLE-ENDED MULTIMAPaSQUARE WITH CONTOURED OUTLINEaINCREASES AS",
    "aSHUFFLE PRODUCTaEQUALS SIGN AND SLANTED PARALLELzh WITH TILDE ABOVEaIDENTICAL TO AND SLANTED PARALLEL",
    "aGLEICH STARKaTHERMODYNAMICaDOWN-POINTING TRIANGLE WITH LEFT HALF BLACKzd:RIGHaBLACK DIAMOND WITH DOWN ARROW",
    "gLOZENGEaWHITE CIRCLE WITH DOWN ARROWa|BLACK aERROR-BARRED WHITE SQUAREn)BLACKnWHITE DIAMONDn*BLACKnWHITE CIRCLE",
    "n)BLACKaRULE-DELAYEDbEVERSE SOLIDUS OPERATORaSOLIDUS WITH OVERBARaREVERSE SOLIDUS WITH HORIZONTAL STROKE",
    "aBIG SOLIDUSd* REVERSEa#DOUBLE PLa)TRIPaLEFT-POINTING CURVED ANGLE BRACKETa|+RIGHaTINYa$M",
    "aN-ARY CIRCLED DOT OPERATORo+PLUSo,TIMEgUNION OPERATOR WITH DOTz PLUSgSQUARE INTERSECTION OPERATORn:UN",
    "a+TWO LOGICAL ANDm+ORa+N-ARY TIMESaMODULO TWO SUMaSUMMATION WITH INTEGRALaQUADRUPLE INTEGRAL OPERATOR",
    "aFINITE PART INTEGRALaINTEGRAL WITH DOUBLE STROKEjAVERAGE WITH SLASHaCIRCULATION FUNCTIONa%ANTICLOCKWISE INTEGRA",
    "aLINE INTEGRATION WITH RECTANGULAR PATH AROUND POLEw^SEMICIRCr&NOT INCLUDING THE",
    "aINTEGRAL AROUND A POINT OPERATORa+QUATERNION INTEGRALaINTEGRAL WITH LEFTWARDS ARROW WITH HOOKoTIMES SIGN",
    "oINTERSECTIONo$UNoOVERBARo&UNDaJOINaLARGE LEFT TRIANGLE OPERATORaZ NOTATION SCHEMA COMPOSITIONsPIPINGtROJECTION",
    "aPLUS SIGN WITH SMALL CIRCLE ABOVEp(CIRCUMFLEX ACCENTp(TILDEpDOT BELOWp(TILDEpSUBSCRIPT TWOpBLACK TRIANGLE",
    "aMINUS SIGN WITH COMMA ABOVEqDOT BELOWqFALLING DOTSq*RISaPLUS SIGN IN LEFT HALF CIRCLEn;RIGH",
    "aVECTOR OR CROSS PRODUCTaMULTIPLICATION SIGN WITH DOT ABOVEzUNDERBARaSEMIDIRECT PRODUCT WITH BOTTOM CLOSED",
    "bMASH PRODUCTaMULTIPLICATION SIGN IN LEFT HALF CIRCLEx;RIGHaCIRCLED MULTIPLICATION SIGN WITH CIRCUMFLEX ACCENT",
    "aMULTIPLICATION SIGN IN DOUBLE CIRCLEaCIRCLED DIVISION SIGNaPLUS SIGN IN TRIANGLEa[MINb?ULTIPLICATION",
    "aINTERIOR PRODUCTa>RIGHTHAND aZ NOTATION RELATIONAL COMPOSITIONaAMALGAMATION OR COPRODUCTaINTERSECTION WITH DOT",
    "aUNION WITH MINUS SIGNlOVERBARa>INTERSECTsLOGICAL ANDaUNION WITH LOGICAL ORgABOVE INTERSECTION",
    "a$INTERSECTION ABOVE UNa$UNION ABOVE BAR ABOVE INTERSECTa$INTERSECTION ABOVE BAR ABOVE UN",
    "a(UNION BESIDE AND JOINED WITHa$INTERSECTION BESIDE AND JOINED WITH INTERSECTaCLOSED UNION WITH SERIFS",
    "h=INTERSECTaDOUBLE SQUARE INTERSECTIONo$UNaCLOSED UNION WITH SERIFS AND SMASH PRODUCTaLOGICAL AND WITH DOT ABOVE",
    "i=ORaDOUBLE LOGICAL ANDpORaTWO INTERSECTING LOGICAL ANDzORa$SLOPING LARGEoANDa%LOGICAL OR OVERLAPPING LOGICAL",
    "iAND WITH MIDDLE STEMi?ORiAND WITH HORIZONTAL DASHi^ORiAND WITH DOUBLE OVERBARr&UNDq+ DOUBLEa+SMALL VEE WITH",
    "a&LOGICAL OR WITH DOUBLE OVx&UNDaZ NOTATION DOMAIN ANTIRESTRICTIONl>RANGEaEQUALS SIGN WITH DOT BELOW",
    "aIDENTICAL WITH DOT ABOVEaTRIPLE HORIZONTAL BAR WITH DOUBLE VERTICAL STROKEzc@TRIPbILDE OPERATOR WITH DOT ABOVE",
    "uRISING DOTSaSIMILAR MINUS SIMILARaCONGRUENT WITH DOT ABOVEaEQUALS WITH ASTERISK",
    "aALMOST EQUAL TO WITH CIRCUMFLEX ACCENTbPPROXIMATELY EQUAL OR EQUAL TOaEQUALS SIGN ABOVE PLUS SIGN",
    "a(PLUS SIGN ABOVE EQUALaEQUALS SIGN ABOVE TILDE OPERATORaDOUBLE COLON EQUALaTWO CONSECUTIVE EQUALS SIGNSb|$HREE",
    "aEQUALS SIGN WITH TWO DOTS ABOVE AND TWO DOTS BELOWdIVALENT WITH FOUR DOTS ABOVEaLESS-THAN WITH CIRCLE INSIDE",
    "a|#GREATERaLESS-THAN WITH QUESTION MARK ABOVEa|*GREATERaLESS-THAN OR SLANTED EQUAL TOa|$GREATER",
    "aLESS-THAN OR SLANTED EQUAL TO WITH DOT INSIDEa|[GREATERaLESS-THAN OR SLANTED EQUAL TO WITH DOT ABOVEa|@GREATER",
    "aLESS-THAN OR SLANTED EQUAL TO WITH DOT ABOVE RIGHTaGREATER-THAN OR SLANTED EQUAL TO WITH DOT ABOVE LEFT",
    "aLESS-THAN OR APPROXIMATEa]GREATERaLESS-THAN AND SINGLE-LINE NOT EQUAL TOa|:GREATER",
    "aLESS-THAN AND NOT APPROXIMATEa|$GREATERaLESS-THAN ABOVE DOUBLE-LINE EQUAL ABOVE GREATER-THAN",
    "a&GREATER-THAN ABOVE DOUBLE-LINE EQUAL ABOVE LESSaLESS-THAN ABOVE SIMILAR OR EQUALa|(GREATER",
    "aLESS-THAN ABOVE SIMILAR ABOVE GREATER-THANa&GREATER-THAN ABOVE SIMILAR ABOVE LESS",
    "aLESS-THAN ABOVE GREATER-THAN ABOVE DOUBLE-LINE EQUALa|)GREATER-THAN ABOVE LESS",
    "a(LESS-THAN ABOVE SLANTED EQUAL ABOVE GREATER-THAN ABOVE SLANTEDa|$GREATER-THAN ABOVE SLANTED EQUAL ABOVE LESS",
    "aSLANTED EQUAL TO OR LESS-THANu&GREATERuLESS-THAN WITH DOT INSIDEu^GREATERaDOUBLE-LINE EQUAL TO OR LESS-THAN",
    "y&GREATERm&SLANTED EQUAL TO OR LESSzh&GREATERa&SIMILAR OR LESSl&GREATERiABOVE LESS-THAN ABOVE EQUALS SIGN",
    "o|GREATER-aDOUBLE NESTED LESS-THANo&GREATERoLESS-THAN WITH UNDERBARaGREATER-THAN OVERLAPPING LESS-THANn,BESIDE",
    "aLESS-THAN CLOSED BY CURVEa^GREATERaLESS-THAN CLOSED BY CURVE ABOVE SLANTED EQUALa|[GREATERaSMALLER THANa)LARG",
    "aSMALLER THAN OR EQUAL TOa[LARGaEQUALS SIGN WITH BUMPY ABOVEaPRECEDES ABOVE SINGLE-LINE EQUALS SIGNa|+SUCCEED",
    "aPRECEDES ABOVE SINGLE-LINE NOT EQUAL TOa|,SUCCEEDaPRECEDES ABOVE EQUALS SIGNa[SUCCEED",
    "aPRECEDES ABOVE NOT EQUAL TOa]SUCCEEDa,PRECEDES ABOVE ALMOSa|SUCCEEDSa>PRECEDES ABOVE NOTa|&SUCCEED",
    "aDOUBLE PRECEDEShSUCCEEDSaSUBSET WITH DOTc:PERcBSET WITH PLUS SIGN BELOWc|#PERc.BSET WITH MULTIPLICATIONc|:PER",
    "cBSET OF OR EQUAL TO WITH DOT ABOVEc|.PERcBSET OF ABOVE EQUALS SIGNc|#PERcBSET OF ABOVE TILDE OPERATORc|&PER",
    "cBSET OF ABOVE ALMOST EQUAL TOc|(PERc,BSET OF ABOVE NOc|$PERbQUARE LEFT OPEN BOX OPERATORh[RIGHaCLOSED SUBSET",
    "j$PERjBSET OR EQUAL TOj=PERaSUBSET ABOVE SUPERSETc$PERSET ABOVE SUBc>Bc$PERSET ABOVE SUPERj$BESIDE SUB",
    "p) AND JOINED BY DASH WITHaELEMENT OF OPENING DOWNWARDSaPITCHFORK WITH TEE TOPaTRANSVERSAL INTERSECTIONaFORKING",
    "a)NONaSHORT LEFT TACKg&DOWNg&UPaPERPENDICULAR WITH SaVERTICAL BAR TRIPLE RIGHT TURNSTILE",
    "a.DOUBLE VERTICAL BAR LEFa=VERTICAL BAR DOUBLEa|:DOUBLE aLONG DASH FROM LEFT MEMBER OF DOUBLE VERTICAL",
    "aSHORT DOWN TACK WITH OVERBARg&UP TACK WITH UNDoABOVE SHORT DOWN TACKa,DOUBLEh&UPhSTROKE NOT SIGNa|REVERSED ",
    "aDOES NOT DIVIDE WITH REVERSED NEGATION SLASHaVERTICAL LINE WITH CIRCLE ABOVEz BELOWa@DOWN TACK",
    "aPARALLEL WITH HORIZONTAL STROKEoTILDE OPERATORaTRIPLE VERTICAL BAR BINARY RELATIONuWITH HORIZONTAL STROKE",
    "hCOLON OPERATORhNESTED LESS-THANo&GREATERaDOUBLE-LINE SLANTED LESS-THAN OR EQUAL TOu?GREATER",
    "aTRIPLE SOLIDUS BINARY RELATIONaLARGE TRIPLE VERTICAL BAR OPERATORa+DOUBLE SOLIDUSaWHITE VERTICAL BARa@N-ARY ",
    "bORTH EAST WHITE ARROWg<WEa<SOUTH EAg<WEa;LEFT RIGHe(WARDS BLACKa?UPa?DOWNa:NORTH EASTg<WEa<SOUTH EAg<WE",
    "a;LEFT RIGHa:UP DOWNaRIGHTWARDS ARROW WITH TIP DOWNWARDSz& UPa&LEFTWARDS ARROW WITH TIP DOWNz&UP",
    "aSQUARE WITH TOP HALF BLACKm.BOTTOMm.UPPER RIGHT DIAGONALm^LOWER LEFa.DIAMOND WITH LEFTn:RIGHn.TOPn.BOTTOM",
    "bOTTED SQUAREa)BLACK LARGEa;WHITEa)BLACK VERY SMALLa@WHITEaBLACK PENTAGONa+WHITEg%HEXa*BLACKa;HORIZONTAL ",
    "aBLACK LARGE CIRCLEgMEDIUM DIAMONDa=WHITEaBLACK MEDIUM LOZENGEa=WHITEaBLACK SMALL DIAMONDmLOZENGEa<WHITE",
    "aBLACK HORIZONTAL ELLIPSEa[WHITEa,BLACK VERTICa?WHITEaLEFT ARROW WITH SMALL CIRCLEaTHREE LEFTWARDS ARROWS",
    "aLEFT ARROW WITH CIRCLED PLUSbONG LEFTWARDS SQUIGGLE ARROWbEFTWARDS TWO-HEADED ARROW WITH VERTICAL STROKE",
    "zg> DOUBLEzcFROM BARvTRIPLE DASH ARROWkARROW WITH DOTTED STEMvTAIL WITH VERTICAL STROKEzf> DOUBLE",
    "kTWO-HEADED ARROW WITH TAILzl WITH VERTICAL STROKEzq> DOUBLEkARROW THROUGH XaWAVE ARROW POINTING DIRECTLY LEFT",
    "aEQUALS SIGN ABOVE LEFTWARDS ARROWa|REVERSE TILDE OPERATORaLEFTWARDS ARROW ABOVE REVERSE ALMOST EQUAL TO",
    "aRIGHTWARDS ARROW THROUGH GREATER-THANzSUPERSETaLEFTWARDS QUADRUPLE ARROWa|RIGH",
    "b(EVERSE TILDE OPERATOR ABOVE RIGHTWARDSbIGHTWARDS ARROW ABOVE REVERSE ALMOST EQUAL TO",
    "aTILDE OPERATOR ABOVE LEFTWARDS ARROWaLEFTWARDS ARROW ABOVE ALMOST EQUAL TOwREVERSE TILDE OPERATORa|[RIGH",
    "aDOWNWARDS TRIANGLE-HEADED ZIGZAG ARROWa(SHORT SLANTED NORTHg*BACKSLANTED SOUaWHITE MEDIUM STARa&BLACK SMALL",
    "a.WHITEaBLACK RIGHT-POINTING PENTAGONa|#WHITEaHEAVY LARGE CIRCLEgOVAL WITH OVAL INSIDEg)CIRCLE WITH CIRCLElE",
    "mD SALTIREaSLANTED NORTH ARROW WITH HOOKED HEADaBACKSLANTED SOUTH ARROW WITH HOOKED TAIL",
    "a&SLANTED NORTH ARROW WITH HORIZONTALa|)BACKSLANTED SOUbENT ARROW POINTING DOWNWARDS THEN NORTH EASTa||SHORT B",
    "aLEFTWARDS TRIANGLE-HEADED ARROWa|&UPa|&RIGHTa|&DOWNa|LEFT RIGHTa|UP DOWNa|NORTH WESTg|#EAa|)SOUg|#WE",
    "a*LEFTWARDS TRIANGLE-HEADED DASHa|:UPa|:RIGHTa|:DOWNa(CLOCKWISE TRIANGLE-HEADED OPEN CIRCLEa|^ANTI",
    "aLEFTWARDS TRIANGLE-HEADED ARROW TO BARa|:UPa|:RIGHTa|:DOWN__a|)NORTH WESTg|+EAa|<SOUg|+WE",
    "aLEFTWARDS TRIANGLE-HEADED ARROW WITH DOUBLE HORIZONTAL STROKEa||;UPa||;RIGHTa||;DOWNaHORIZONTAL TAB KEYa,VERTIC",
    "aLEFTWARDS TRIANGLE-HEADED ARROW OVER RIGHTWARDS TRIANGLE-HEADED ARROW",
    "a|&UPWARDS TRIANGLE-HEADED ARROW LEFTWARDS OF DOWNa|&RIGHTWARDS TRIANGLE-HEADED ARROW OVER LEFT",
    "a|&DOWNWARDS TRIANGLE-HEADED ARROW LEFTWARDS OF UPaLEFTWARDS TRIANGLE-HEADED PAIRED ARROWSa|;UPa|;RIGHTa|;DOWN",
    "aLEFTWARDS BLACK CIRCLED WHITE ARROWa|+UPa|+RIGHTa|+DOWNa(ANTICLOCKWISE TRIANGLE-HEADED RIGHT U-SHAPEDzf=BOTTOM",
    "zf=LEFTzf=TOPaRETURN LEFThRIGHTaNEWLINE LEFTiRIGHTaFOUR CORNER ARROWS CIRCLING ANTICLOCKWISE",
    "aRIGHTWARDS BLACK ARROW_aSYMBOL FOR TYPE A ELECTRONICSaTHREE-D TOP-LIGHTED LEFTWARDS EQUILATERAL ARROWHEAD",
    "i|&RIGHT-LIGHTED UPi|&TOP-LIGHTED RIGHTi|&LEFT-LIGHTED DOWNa|&BLACK LEFTg|&UPg|&RIGHTg|&DOWN",
    "aDOWNWARDS TRIANGLE-HEADED ARROW WITH LONG TIP LEFTWARDSzv(RIGHa(UPWARDS TRIANGLE-HEADED ARROW WITH LONG TIP LEF",
    "zt(RIGHa&LEFTWARDS TRIANGLE-HEADED ARROW WITH LONG TIP UPa||(RIGH",
    "a&LEFTWARDS TRIANGLE-HEADED ARROW WITH LONG TIP DOWNa||*RIGHaBLACK CURVED DOWNWARDS AND LEFTWARDS ARROWzc:RIGH",
    "n:UPWARDS AND LEFz:RIGHn.LEFTWARDS AND UPn|#RIGHn.LEFTWARDS AND DOWNn|%RIGHaRIBBON ARROW DOWN LEFTsRIGHTnUP LEFT",
    "qRIGHTnLEFT UPn%RIGHnLEFT DOWNn(RIGHaUPWARDS WHITE ARROW FROM BAR WITH HORIZONTAL BAR",
    "c ARROWHEAD IN A RECTANGLE BOXaOVERLAPPING WHITE SQUARESr* AND BLACKl<aBALLOT BOX WITH LIGHT Xa#CIRCLEDg$D BOL",
    "aBLACK SQUARE CENTREDg*DIAMONDaTURNED BLACK PENTAGONa&HORIZONTAL BLACK OCa;gMEDIUM UP-POINTING TRIANGLE CENTRED",
    "n|%DOWNn|%LEFTn|&RIGHaNEPTUNE FORM TWOaTOP HALF BLACK CIRCLEa@BOTTOMaLIGHT FOUR POINTED BLACK CUSPa|)ROTATED ",
    "a&WHITE FOUR POINTEDa|ROTATED WaSQUARE POSITION INDICATORaUNCERTAINTY SIGNaGROUP MARKaPLUTO FORM TWOmHREElFOUR",
    "mIVEaTRANSPLUTOaPROSERPINAaASTRAEAa#HYGIaPHOLUSa#NESSaWHITE MOON SELENAaBLACK DIAMOND ON CROSS",
    "aTRUE LIGHT MOON ARTAaCUPIDOaHADESaZEUSaKRONOSaAPOLLONbDMETOSaVULCANUSaPOSEIDONaLEFT HALF BLACK STARa?RIGH",
    "aSTAR WITH LEFT HALF BLACKk:RIGHaLEFTWARDS TWO-HEADED ARROW WITH TRIANGLE ARROWHEADSa||$UPa||$RIGHTa||$DOWN",
    "aERIS FORM ONEkTWOaSEDNAaRUSSIAN ASTROLOGICAL SYMBOL VIGINTILEzd$NOVzd$QUINTzd$BINOVzdSENTAGONzdTREDECILE",
    "aEQUALS SIGN WITH INFINITY BELOWaUNITED SYMBOLa,SEPARAa+DOUBLa+PASSaREVERSED RIGHT ANGLE",
    "aHELLSCHREIBER PAUSE SYMBOLaGLAGOLITIC CAPITAL LETTER AZUz BUKYz VEDEz GLAGOLIz DOBROz YESTUz ZHIVETEz DZELO",
    "z ZEMLJAz IZHEz& INITIALz Iz DJERVIz KAKOz LJUDIJEz MYSLITEz NASHIz ONUz POKOJIz RITSIz SLOVOz TVRIDOz UKU",
    "z FRITUz HERUz OTUz PEz SHTAz TSIz CHRIVIz SHAz YERUzeIzcATIz SPIDERY HAz YUz SMALL YUSzk WITH TAILz YO",
    "z IOTATED SMALL YUSz% BIGz* IOTATEDz FITAz IZHITSAz SHTAPICz TROKUTASTI Az LATINATE MYSLITEz CAUDATE CHRIVI",
    "lSMALL LETTER AZUyBUKYyVEDEyGLAGOLIyDOBROyYESTUyZHIVETEyDZELOyZEMLJAyIZHEx& INITIALyIyDJERVIyKAKOyLJUDIJE",
    "yMYSLITEyNASHIyONUyPOKOJIyRITSIySLOVOyTVRIDOyUKUyFRITUyHERUyOTUyPEySHTAyTSIyCHRIVIySHAyYERUzcIzATIySPIDERY HAyYU",
    "ySMALL YUSzi WITH TAILyYOyIOTATED SMALL YUSy%BIGx* IOTATEDyFITAyIZHITSAySHTAPICyTROKUTASTI AyLATINATE MYSLITE",
    "yCAUDATE CHRIVIaLATIN CAPITAL LETTER L WITH DOUBLE BARg|%SMALgCAPITAL LETTER L WITH MIDDLE TILDEvP WITH STROKE",
    "vR WITH TAILgSMALL LETTER A WITH STROKEt)T WITH DIAGONALgCAPITAL LETTER H WITH DESCENDERg|$SMAL",
    "g=CAPITAL LETTER Kg|$SMALg=CAPITAL LETTER Zg|$SMALgCAPITAL LETTER ALPHAvM WITH HOOKvTURNED AzeLPHA",
    "gSMALL LETTER V WITH RIGHT HOOKg&CAPITAL LETTER W WITHg]SMALtV WITH CURLgCAPITAL LETTER HALF Hg=SMAL",
    "tTAILLESS PHItE WITH NOTCHtTURNED R WITH TAILtO WITH LOW RING INSIDEgLETTER SMALL CAPITAL TURNED E",
    "gSUBSCRIPT SMALL LETTER JaMODIFIER LETTER CAPITAL VaLATIN CAPITAL LETTER S WITH SWASH TAILv>Z",
    "aCOPTIC CAPITAL LETTER ALFAh;SMALhCAPITAL LETTER VIDAh;SMALhCAPITAL LETTER GAMMAh<SMALhCAPITAL LETTER DALDA",
    "h<SMALhCAPITAL LETTER EIEh:SMALhCAPITAL LETTER SOUh:SMALhCAPITAL LETTER ZATAh;SMALhCAPITAL LETTER HATEh;SMAL",
    "hCAPITAL LETTER THETHEh=SMALhCAPITAL LETTER IAUDAh<SMALhCAPITAL LETTER KAPAh;SMALhCAPITAL LETTER LAULAh<SMAL",
    "hCAPITAL LETTER MIh.SMALhCAPITAL LETTER NIh.SMALhCAPITAL LETTER KSIh:SMALhCAPITAL LETTER Oh,SMAL",
    "hCAPITAL LETTER PIh.SMALhCAPITAL LETTER ROh.SMALhCAPITAL LETTER SIMAh;SMALhCAPITAL LETTER TAUh:SMAL",
    "hCAPITAL LETTER UAh.SMALhCAPITAL LETTER FIh.SMALhCAPITAL LETTER KHIh:SMALhCAPITAL LETTER PSIh:SMAL",
    "hCAPITAL LETTER OOUh:SMALhCAPITAL LETTER DIALECT-P ALEFh|SMALLhCAPITAL LETTER OLD COPTIC AINh|SMALL",
    "hCAPITAL LETTER CRYPTOGRAMMIC EIEh|%SMALhCAPITAL LETTER DIALECT-P KAPAh|SMALLhCAPITAL LETTER DIALECT-P NIh^SMAL",
    "h$CAPITAL LETTER CRYPTOGRAMMICh|$SMALhCAPITAL LETTER OLD COPTIC OOUh|SMALLhCAPITAL LETTER SAMPIh<SMAL",
    "hCAPITAL LETTER CROSSED SHEIh^SMALh&CAPITAL LETTER OLD COPTICh|#SMALhCAPITAL LETTER OLD COPTIC ESHh|SMALL",
    "hCAPITAL LETTER AKHMIMIC KHEIh|SMALhCAPITAL LETTER DIALECT-P HORIh|SMALLh&CAPITAL LETTER OLD COPTICh|#SMAL",
    "hCAPITAL LETTER OLD COPTIC HAh|SMALh$CAPITAL LETTER L-SHAPEDh]SMALhCAPITAL LETTER OLD COPTIC HEIh|SMALL",
    "hCAPITAL LETTER OLD COPTIC HATh|SMALLhCAPITAL LETTER OLD COPTIC GANGIAh|%SMALhCAPITAL LETTER OLD COPTIC DJA",
    "h|SMALLhCAPITAL LETTER OLD COPTIC SHIMAh|$SMALh(CAPITAL LETTER OLD NUBIANh|$SMALhCAPITAL LETTER OLD NUBIAN NGI",
    "h|SMALLhCAPITAL LETTER OLD NUBIAN NYIh|SMALLhCAPITAL LETTER OLD NUBIAN WAUh|SMALLiYMBOL KAIoMI ROo%PoSTAUROS",
    "oTAU ROo$KHIoSHIMA SIMAhCAPITAL LETTER CRYPTOGRAMMIC SHEIh|&SMALhCAPITAL LETTER CRYPTOGRAMMIC GANGIAh|)SMAL",
    "hCOMBINING NI ABOVErSPIRITUS ASPERz LENISiAPITAL LETTER BOHAIRIC KHEIh|SMAL_____hOLD NUBIAN FULL STOP",
    "sDIRECT QUESTION MARKs]INsVERSE DIVIDERhFRACTION ONE HALFiULL STOPhMORPHOLOGICAL DIVIDER",
    "aGEORGIAN SMALL LETTER ANw#Bw#GwDONwENwVINwZENwTANwINwKANwLASwMANwNARwONwPARw#ZHwRAEwSANwTARwUNwPHARw$KwGHANwQAR",
    "wSHINw$CxANwJILw#CxHARwXANw#JHwHAExExIEwWEwHARxOE_wYN_____wAEN__aTIFINAGH LETTER YAsBtHsGtHHqBERBER ACADEMY YAJ",
    "p%sDtHtDuHrEYrAFsKp% TUAREGqYAKHHsHp% BERBER ACADEMYq%TUAREGqYAHHsAsKHp& TUAREGqYAQp% TUAREGqYIrAZHo(R AHAGGA",
    "q&TUAREGqYAL~~qTUAREG YAGNzNGqYAPrUrARtRsGHp& TUAREGq&AYERqYAStStHsTtHsCHsTTsV~sY~p% TAWELLEMETqYAZZrErO_______",
    "jMODIFIER LETTER LABIALIZATION MARKj&SEPARATOR"]),
  (0x2D7F, ["aTIFINAGH CONSONANT JOINERaETHIOPIC SYLLABLE LOAs#Ms#Rs#St#Hs#Bs#Ts#Cs#Nt#Ys#GLOTTAL s#Zs#Ds$Ds#Js#TH",
    "s$Cs$Pt#sGGWAvIvEEvE"]),
  (0x2DA0, ["aETHIOPIC SYLLABLE SSAuUuIuAAuEEuEuO_sCCAuUuIuAAuEEuEuO_sZZAuUuIuAAuEEuEuO_sCCHAvUvIvAAvEEvEvO_sQYAuUuI",
    "uAAuEEuEuO_sKYAuUuIuAAuEEuEuO_sXYAuUuIuAAuEEuEuO_sGYAuUuIuAAuEEuEuO_aCOMBINING CYRILLIC LETTER BEz VEz GHEz DE",
    "z ZHEzcEz KAz EL~~z Oz PEz ER~z TEz HAz TSEz CHEz SHAzc#HCz FITAz ES-TEz Az IEz DJERVz MONOGRAPH UKz YATzcU",
    "z IOTIFIED Az LITTLE YUSz% BIGz* IOTIFIEDaRIGHT ANGLE SUBSTITUTION MARKERl] DOTTEDaLEFT SUBSTITUTION BRACKET",
    "a|RIGHa^LEFT DOTTEDa|)RIGHbAISED INTERPOLATION MARKERf|D DOTTEa.DOTTED TRANSPOSIaLEFT TRANSPOSITION BRACKET",
    "a|RIGHTbAISED SQUAREaLEFT RAISED OMISSION BRACKETa|$RIGHaEDITORIAL CORONISaPARAGRAPHOSa.FORKED a@REVERSED ",
    "aHYPODIASTOLEaDOTTED OBELOScWNWARDS ANCORAa:UPaDOTTED RIGHT-POINTING ANGLEcUBLE OBLIQUE HYPHEN",
    "aINVERTED INTERROBANGaPALM BRANCHaHYPHEN WITH DIAERESISaTILDE WITH RING ABOVEaLEFT LOW PARAPHRASE BRACKETa|#RIGH",
    "aTILDE WITH DOT ABOVEpBELOWaLEFT VERTICAL BAR WITH QUILLa|$RIGHaTOP LEFT HALF BRACKETe<RIGHa<BOTTOM LEFh<RIGH",
    "a*LEFT SIDEWAYS Ua]RIGHaLEFT DOUBLE PARENTHESISa]RIGHaTWO DOTS OVER ONE DOT PUNCTUATIONa:ONE DOT OVER TWO DOTS",
    "a:SQUARED FOUR DOTaFIVE DOT MARKa&REVERSED QUESTIONaVERTICAL TILDEaRING POINTaWORD SEPARATOR MIDDLE DOT",
    "aTURNED COMMAaRAISED DOThCOMMAaTURNED SEMICOLONaDAGGER WITH LEFT GUARDm)RIGHaTURNED DAGGERbOP HALF SECTION SIGN",
    "bWO-EM DASHb*HREEaSTENOGRAPHIC FULL STOPaVERTICAL SIX DOTSaWIGGLY VERTICAL LINEaCAPITULUMaDOUBLE HYPHEN",
    "aREVERSED COMMAaDOUBLE LOW-REVERSED-9 QUOTATION MARKbASH WITH LEFT UPTURNbOUBLE SUSPENSION MARK",
    "aINVERTED LOW KAVYKAt WITH KAVYKA ABOVEaLOW KAVYKAk WITH DOTaDOUBLE STACKED COMMAcTTED SOLIDUSaTRIPLE DAGGER",
    "aMEDIEVAL COMMAaPARAGRAPHUS MARKb)UNCTUS ELEVATaCORNISH VERSE DIVIDERbROSS PATTY WITH RIGHT CROSSBARr,LEF",
    "aTIRONIAN SIGN CAPITAL ETaMEDIEVAL EXCLAMATION MARKj+QUESaLEFT SQUARE BRACKET WITH STROKEa|(RIGH",
    "a)LEFT SQUARE BRACKET WITH DOUBLEa|;RIGHaTOP HALF LEFT PARENTHESISj;RIGHa;BOTTOM HALF LEFm;RIGHaOBLIQUE HYPHEN"]),
  (0x2E80, ["aCJK RADICAL REPEATmCLIFFmSECOND ONEtTWOuHREEmPERSONmBOXmTABLEmKNIFE ONEsTWOmDIVINATIONmSEALnMALL ONE",
    "sTWOmLAME ONErTWOsHREErFOURmSNAKEmTHREADmSNOUT ONEsTWOmHEART ONEsTWOnANDmRAP_mCHOKEmSUNmMOONmDEATHmMOTHER",
    "mCIVILIANmWATER ONEsTWOmFIREmPAW ONEqTWOmSIMPLIFIED HALF TREE TRUNKmCOWmDOGmJADEmBOLT OF CLOTHmEYEmSPIRIT ONE",
    "tTWOmBAMBOOmSILKl& C-SIMPLIFIEDmNET ONEqTWOrHREEqFOURmMESHmSHEEPmRAMmEWEmOLDmBRUSH ONEsTWOmMEATnORTARmGRASS ONE",
    "sTWOtHREEmTIGERmCLOTHESmWEST ONErTWOmC-SIMPLIFIED SEEmSIMPLIFIED HORNl&mC-SIMPLIFIED SPEECHzSHELLmFOOT",
    "mC-SIMPLIFIED CARTmSIMPLIFIED WALKmWALK ONErTWOmCITYn-SIMPLIFIED GOLDmLONG ONErTWOmC-SIMPLIFIED LONGzGATE",
    "mMOUND ONEsTWOmRAINmBLUEmC-SIMPLIFIED TANNED LEATHERzLEAFzWINDzFLYmEAT ONEqTWOrHREEmC-SIMPLIFIED EATmHEAD",
    "mC-SIMPLIFIED HORSEmBONEmGHOSTmC-SIMPLIFIED FISHzBIRDzSALTmSIMPLIFIED WHEATxYELLOWmC-SIMPLIFIED FROG",
    "mJ-SIMPLIFIED EVENm>CmJ-SIMPLIFIED TOOTHm?CmJ-SIMPLIFIED DRAGONm@CmTURTLEl) J-SIMPLIFIEDm@C"]),
  (0x2F00, ["aKANGXI RADICAL ONEp#LIpDOTpSLASHqECONDpHOOKpTWOpLIDpMANpLEGSpENTERqIGHTpDOWN BOXpCOVERpICEpTABLE",
    "pOPEN BOXpKNIFEpPOWERpWRAPpSPOONpRIGHT OPEN BOXpHIDING ENCLOSUREpTENpDIVINATIONpSEALpCLIFFpPRIVATEpAGAINpMOUTH",
    "pENCLOSUREqARTHpSCHOLARpGOr SLOWLYpEVENINGpBIGpWOMANpCHILDpROOFpINCHpSMALLpLAMEpCORPSEpSPROUTpMOUNTAINpRIVER",
    "pWORKpONESELFpTURBANpDRYpSHORT THREADpDOTTED CLIFFpLONG STRIDEpTWO HANDSpSHOOTpBOWpSNOUTpBRISTLEpSTEPpHEART",
    "qALBERDpDOORpHANDpBRANCHpRAPpSCRIPTpDIPPERpAXEpSQUAREpNOTpSUNqAYpMOONpTREEpLACKpSTOPpDEATHpWEAPONpDO NOTpCOMPARE",
    "pFURpCLANpSTEAMpWATERpFIREpCLAWpFATHERpDOUBLE XpHALF TREE TRUNKpSLICEpFANGpCOWpDOGpPROFOUNDpJADEpMELONpTILE",
    "pSWEETpLIFEpUSEpFIELDpBOLT OF CLOTHpSICKNESSpDOTTED TENTpWHITEpSKINpDISHpEYEpSPEARpARROWpSTONEqPIRITpTRACKpGRAIN",
    "pCAVEpSTANDpBAMBOOpRICEpSILKpJARpNETpSHEEPpFEATHERpOLDpANDpPLOWpEARpBRUSHpMEATqINISTERpSELFpARRIVEpMORTARpTONGUE",
    "pOPPOSEpBOATpSTOPPINGpCOLORpGRASSpTIGERpINSECTpBLOODpWALK ENCLOSUREpCLOTHESpWESTpSEEpHORNpSPEECHpVALLEYpBEANpPIG",
    "pBADGERpSHELLpREDqUNpFOOTpBODYpCARTpBITTERpMORNINGpWALKpCITYpWINEpDISTINGUISHpVILLAGEpGOLDpLONGpGATEpMOUNDpSLAVE",
    "qHORT TAILED BIRDpRAINpBLUEpWRONGpFACEpLEATHERo* TANNEDpLEEKpSOUNDpLEAFpWINDpFLYpEATpHEADpFRAGRANTpHORSEpBONE",
    "pTALLpHAIRpFIGHTpSACRIFICIAL WINEpCAULDRONpGHOSTpFISHpBIRDpSALTpDEERpWHEATpHEMPpYELLOWpMILLETpBLACKpEMBROIDERY",
    "pFROGpTRIPODpDRUMpRATpNOSEpEVENpTOOTHpDRAGONpTURTLEpFLUTE"]),
  (0x2FF0, ["aIDEOGRAPHIC DESCRIPTION CHARACTER LEFT TO RIGHTzjABOVE TO BELOWzjLEFT TO MIDDLE AND RIGHT",
    "zjABOVE TO MIDDLE AND BELOWzjFULL SURROUNDzjSURROUND FROM ABOVEzxBELOWzxLEFTzw& UPPERzzeRIGHTzxLOWER LEFT",
    "zjOVERLAID"])]

end FlowSketch.TextNameSymbols
